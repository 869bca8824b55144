import WidgetMarkup.Proofs.Construction.Plans
import WidgetMarkup.Proofs.Construction.Successes
import WidgetMarkup.Proofs.Vocabulary.NamelessRules

namespace WidgetMarkup

open Markup

/-!
# What beginning does to sketches

Attributes add listeners to the sketch of a widget, in the order of the source, and text adds labels
or becomes the text of the widget. So the target that a node is begun with looks as the node plans,
before it takes in what is inside the node.
-/

variable {β : Type} {look : Option String → β}

/-- Whether all registered actions keep what is seen of the structure of widgets. -/
def Actions.KeepSketches (look : Option String → β) (actions : Actions) : Prop :=
  ∀ name action, actions.find? name = some action →
    ∀ widget : Widget, (action.onWidget widget).1.sketch look = widget.sketch look

section Texts

/-- Of the attributes of blueprints that a widget which bears text has, one writes the text, and the
other neither writes it nor has one of its names. -/
theorem StandardAttribute.text_of_mem_building :
    ∀ entry ∈ building, entry.2.feature ∈ [Feature.base, Feature.text] →
      ∀ raw before after, entry.2.apply raw before = .ok after →
        (entry.1 = ["text", "value"] ∧ after.text = some raw) ∨
          ((∀ name ∈ entry.1, Declaration.lists ["text", "value"] name = false) ∧
            after.text = before.text) := by
  simp only [building, List.forall_mem_cons, List.mem_nil_iff, false_implies, implies_true,
    and_true]
  refine ⟨?style, ?text, ?vertical, ?horizontal, ?least, ?greatest, ?step, ?value⟩
  case style =>
    intro _ raw before after ran
    obtain ⟨name, _, rfl⟩ := BuildingRule.setting_eq_ok ran
    exact .inr ⟨by decide +kernel, rfl⟩
  case text =>
    intro _ raw before after ran
    obtain ⟨text, isRead, rfl⟩ := BuildingRule.setting_eq_ok ran
    cases isRead
    exact .inl ⟨trivial, rfl⟩
  all_goals
    intro isOther
    simp [BuildingRule.setting] at isOther

namespace Vocabulary

/-- Just the attributes for texts write a text into the blueprint of a widget that bears one. -/
theorem text_of_building?_standard
    {entry : Attribute}
    {rule : BuildingRule}
    {before after : Blueprint}
    (found : standard.building? entry.name [.base, .text] = some rule)
    (ran : rule.apply entry.value before = .ok after) :
    after.text = entry.text?.or before.text := by
  obtain ⟨member, declared, listed, named, rfl⟩ := exists_of_building?_standard found
  unfold Attribute.text?
  rcases StandardAttribute.text_of_mem_building declared listed member _ _ _ ran with
    ⟨sameNames, written⟩ | ⟨others, kept⟩
  · rw [← sameNames, if_pos named, written, Option.some_or]
  · obtain ⟨name, isName, same⟩ := List.any_eq_true.1 named
    rw [← Declaration.lists_congr same, others name isName, kept]
    rfl

theorem text?_of_building?_standard
    {entry : Attribute}
    (unknown : standard.building? entry.name [.base, .text] = none) :
    entry.text? = none := by
  have known : ∀ name ∈ ["text", "value"], (standard.building? name [.base, .text]).isSome := by
    decide +kernel
  unfold Attribute.text?
  split
  · rename_i listed
    obtain ⟨name, member, same⟩ := List.any_eq_true.1 listed
    have isKnown := known name member
    rw [building?_congr (Text.sameName_iff.1 same), unknown] at isKnown
    cases isKnown
  · rfl

end Vocabulary

/-- The text in the blueprint of a widget that bears one is that of the last attribute for it. -/
theorem BlueprintEffects.text
    {inTable : Bool}
    {attributes : List Attribute}
    {before after : Blueprint}
    (effects :
      BlueprintEffects
        (SplitAttributes.ofAttributes .standard [.base, .text] inTable attributes).building
        before after) :
    after.text = (attributes.reverse.findSome? Attribute.text?).or before.text := by
  induction attributes generalizing before with
  | nil =>
      cases effects
      rfl
  | cons entry rest inductionHypothesis =>
      rw [List.reverse_cons, List.findSome?_append, List.findSome?_singleton, Option.or_assoc]
      unfold SplitAttributes.ofAttributes at effects
      cases found : Vocabulary.standard.building? entry.name [.base, .text] with
      | some rule =>
          simp only [found] at effects
          cases effects with
          | writes first others =>
              rw [inductionHypothesis others, Vocabulary.text_of_building?_standard found first]
      | none =>
          rw [Vocabulary.text?_of_building?_standard found, Option.none_or]
          simp only [found] at effects
          split at effects <;> exact inductionHypothesis effects

end Texts

namespace TargetSketch

/-- The sketch of a target with what attributes add to it, one after another. -/
def attributed (separator : Char) (entries : List Attribute) :
    TargetSketch β → TargetSketch β
  | .widget sketch => .widget (sketch.extend (entries.filterMap Attribute.listener?) [])
  | .listener made =>
      .listener (entries.foldl
        (fun listener entry => listener.written separator entry.name entry.value) made)

theorem attributed_nil
    (separator : Char)
    (sketch : TargetSketch β) :
    sketch.attributed separator [] = sketch := by
  cases sketch with
  | widget sketch =>
      exact congrArg widget sketch.extend_nil
  | listener made =>
      rfl

theorem attributed_cons
    (separator : Char)
    (entry : Attribute)
    (rest : List Attribute)
    (sketch : TargetSketch β) :
    sketch.attributed separator (entry :: rest) =
      (sketch.attributed separator [entry]).attributed separator rest := by
  cases sketch with
  | widget sketch =>
      dsimp only [attributed]
      rw [Sketch.extend_extend, ← List.filterMap_append]
      rfl
  | listener made =>
      rfl

/-- An attribute that stands for no event adds nothing to a widget. -/
theorem attributed_widget
    (separator : Char)
    {entry : Attribute}
    (silent : ListenerEvent.ofAttribute? entry.name = none)
    (sketch : Sketch β) :
    (widget sketch).attributed separator [entry] = widget sketch := by
  have addsNone : entry.listener? = none := by
    rw [Attribute.listener?, silent, Option.map_none]
  dsimp only [attributed]
  rw [List.filterMap_cons_none addsNone, List.filterMap_nil, Sketch.extend_nil]

/-- An attribute with a silent name adds nothing. -/
theorem attributed_of_isSilent
    (separator : Char)
    {entry : Attribute}
    (isSilent : Declaration.IsSilent entry.name)
    (sketch : TargetSketch β) :
    sketch.attributed separator [entry] = sketch := by
  cases sketch with
  | widget sketch =>
      exact attributed_widget separator isSilent.onWidgets sketch
  | listener made =>
      exact congrArg listener (isSilent.written separator entry.value made)

/-- The attributes that go into a blueprint or a cell add nothing to a target. -/
theorem attributed_split
    (separator : Char)
    (features : List Feature)
    (inTable : Bool)
    (attributes : List Attribute)
    (sketch : TargetSketch β) :
    sketch.attributed separator
        (SplitAttributes.ofAttributes .standard features inTable attributes).target =
      sketch.attributed separator attributes := by
  induction attributes generalizing sketch with
  | nil =>
      rfl
  | cons entry rest inductionHypothesis =>
      rw [attributed_cons separator entry rest]
      unfold SplitAttributes.ofAttributes
      cases found : Vocabulary.standard.building? entry.name features with
      | some rule =>
          have isSilent := Vocabulary.isSilent_of_building?_standard found
          rw [attributed_of_isSilent separator isSilent]
          exact inductionHypothesis sketch
      | none =>
          dsimp only
          split
          · rename_i rule ofCell
            have isSilent : Declaration.IsSilent entry.name := by
              cases inTable with
              | true =>
                  exact Vocabulary.isSilent_of_cell?_standard ofCell
              | false =>
                  cases ofCell
            rw [attributed_of_isSilent separator isSilent]
            exact inductionHypothesis sketch
          · rw [attributed_cons separator entry]
            exact inductionHypothesis _

end TargetSketch

section Effects

variable {interpreter : Interpreter} {target changed : Target}

/-- An attribute adds its listener to a widget, or writes into a listener. -/
theorem AttributeEffect.sketch
    (keep : interpreter.actions.KeepSketches look)
    {entry : Attribute}
    (effect :
      AttributeEffect (Assembly.contextOf interpreter entry) entry.value target changed) :
    changed.sketch look =
      (target.sketch look).attributed interpreter.settings.separator [entry] := by
  cases effect with
  | @writes widget changed silent sameBody =>
      refine Eq.trans ?_ (TargetSketch.attributed_widget _ silent (widget.sketch look)).symm
      refine congrArg TargetSketch.widget ?_
      rw [Widget.sketch_eq, Widget.sketch_eq look widget, sameBody.kind, sameBody.shape,
        sameBody.text, sameBody.listeners, sameBody.children]
  | @listens event widget named =>
      have adds : entry.listener? =
          some { event, action := some (Actions.bareName entry.value) } :=
        congrArg (Option.map _) named
      dsimp only [Target.sketch, TargetSketch.attributed]
      rw [List.filterMap_cons_some adds, List.filterMap_nil]
      exact congrArg TargetSketch.widget (Widget.sketch_listening look widget _)
  | runs widget silent found =>
      refine Eq.trans ?_ (TargetSketch.attributed_widget _ silent (widget.sketch look)).symm
      exact congrArg TargetSketch.widget (keep _ _ found widget)
  | fills listener =>
      rfl

/-- Attributes add their listeners in the order of the source. -/
theorem AttributeEffects.sketch
    (strict : interpreter.settings.unknownAttributes = .fail)
    (keep : interpreter.actions.KeepSketches look)
    {entries : List Attribute}
    (effects : AttributeEffects interpreter entries target changed) :
    changed.sketch look =
      (target.sketch look).attributed interpreter.settings.separator entries := by
  induction effects with
  | nothing target =>
      exact (TargetSketch.attributed_nil _ _).symm
  | skips lenient =>
      rw [strict] at lenient
      cases lenient
  | applies first _ inductionHypothesis =>
      rw [inductionHypothesis, first.sketch keep, ← TargetSketch.attributed_cons]

/-- Text becomes the text of a widget that bears one and has none yet, or labels behind what is in
a widget that bears none. -/
theorem TagRule.TextEffect.sketch_widget
    {text : String}
    {explicit : Bool}
    {widget : Widget}
    (effect : TextEffect text explicit (.widget widget) changed) :
    changed.sketch look =
      .widget
        { widget.sketch look with
          text :=
            if widget.kind.has .textBearing && !explicit then
              look (some text)
            else
              look widget.text
          children :=
            (widget.sketch look).children ++
              if widget.kind.has .textBearing then
                []
              else
                (widget.content.shape.labelTexts text).map (Sketch.label look) } := by
  cases effect with
  | letters _ bearsText unsaid =>
      rw [bearsText, unsaid]
      refine congrArg TargetSketch.widget ?_
      rw [Widget.sketch_eq, Widget.sketch_eq look widget]
      simp only [Bool.not_false, Bool.and_self, ↓reduceIte, List.append_nil]
      rfl
  | ignored _ bearsText given =>
      rw [bearsText, given]
      refine congrArg TargetSketch.widget ?_
      rw [Widget.sketch_eq]
      simp
  | labels _ bearsNone shape children =>
      rw [bearsNone]
      refine congrArg TargetSketch.widget ?_
      have labels (texts : List String) :
          (texts.map Widget.label).map (Widget.sketch look) = texts.map (Sketch.label look) := by
        rw [List.map_map]
        exact List.map_congr_left fun line _ => Widget.sketch_label look line
      rw [Widget.sketch_holding look shape children, labels, Widget.sketch_eq look widget]
      simp [Sketch.extend]

end Effects

namespace TagRule

/-- A widget that bears text has the attributes for texts. -/
theorem features_ofKind
    {kind : WidgetKind}
    (bearsText : kind.has .textBearing = true) :
    (ofKind kind).features = [.base, .text] := by
  have noRange : kind.has .rangeValued = false := by
    cases kind <;> first | decide +kernel | exact absurd bearsText (by decide +kernel)
  change featuresOfKind kind = _
  rw [featuresOfKind, noRange, bearsText]
  rfl

/-- A widget that has just been made has no listeners and holds nothing. -/
theorem sketch_createOfKind
    {kind : WidgetKind}
    {blueprint : Blueprint}
    {target : Target}
    (made : createOfKind kind blueprint = .ok target) :
    target.sketch look =
      .widget
        { kind
          shape := kind.shape
          text := look (if kind.has .textBearing then blueprint.text else none)
          listeners := []
          children := [] } := by
  obtain ⟨range, _, rfl⟩ := createOfKind_eq_ok made
  refine congrArg TargetSketch.widget ?_
  rw [Widget.sketch_eq]
  cases kind <;> rfl

end TagRule

namespace Interpreter

variable {interpreter : Interpreter} {inTable : Bool} {node : Node} {target : Target}

/-- The widget of a node is begun with what the node plans before its children. -/
theorem Begins.sketch_ofKind
    (standard : interpreter.vocabulary = .standard)
    (strict : interpreter.settings.unknownAttributes = .fail)
    (keep : interpreter.actions.KeepSketches look)
    {kind : WidgetKind}
    (begins : interpreter.Begins (.ofKind kind) inTable node target) :
    target.sketch look = .widget (node.begunWidget look kind) := by
  obtain ⟨blueprint, made, attributed, written, created, applied, texted⟩ := begins
  rw [standard] at written applied
  have sketched := applied.sketch strict keep
  rw [TargetSketch.attributed_split, TagRule.sketch_createOfKind created] at sketched
  cases attributed with
  | listener listener =>
      cases sketched
  | widget widget =>
      replace sketched := TargetSketch.widget.inj sketched
      have fields := sketched
      rw [Widget.sketch_eq] at fields
      obtain ⟨isKind, isShape, isText, _, _⟩ := Sketch.mk.inj fields
      have given (bearsText : kind.has .textBearing = true) :
          blueprint.text = node.attributes.reverse.findSome? Attribute.text? := by
        rw [TagRule.features_ofKind bearsText] at written
        exact written.text.trans Option.or_none
      have planned :
          (if kind.has .textBearing then blueprint.text else none) =
            (if kind.has .textBearing then
              node.attributes.reverse.findSome? Attribute.text?
            else
              none) := by
        split
        · exact given ‹_›
        · rfl
      unfold TagRule.TextEffects at texted
      split at texted
      · rename_i hasText
        rw [texted.sketch_widget, sketched, isKind, isShape, isText]
        refine congrArg TargetSketch.widget ?_
        unfold Node.begunWidget Node.ownText Node.labelTexts
        cases bearsText : kind.has .textBearing with
        | true =>
            rw [given bearsText, hasText]
            cases node.attributes.reverse.findSome? Attribute.text? <;> simp [Sketch.extend]
        | false =>
            simp [Sketch.extend, hasText]
      · rename_i blank
        rw [texted]
        refine congrArg TargetSketch.widget (sketched.trans ?_)
        unfold Node.begunWidget Node.ownText Node.labelTexts
        rw [planned]
        simp [Sketch.extend, blank]

/-- The listener of a node is begun with what the node plans before it is checked. -/
theorem Begins.sketch_ofEvent
    (standard : interpreter.vocabulary = .standard)
    (strict : interpreter.settings.unknownAttributes = .fail)
    (keep : interpreter.actions.KeepSketches look)
    {event : ListenerEvent}
    (begins : interpreter.Begins (.ofEvent event) inTable node target) :
    target.sketch look =
      .listener (node.begunListener interpreter.settings.separator event) := by
  obtain ⟨blueprint, made, attributed, _, created, applied, texted⟩ := begins
  cases created
  rw [standard] at applied
  have sketched := applied.sketch strict keep
  rw [TargetSketch.attributed_split] at sketched
  unfold Node.begunListener
  cases attributed with
  | widget widget =>
      cases sketched
  | listener listener =>
      replace sketched := TargetSketch.listener.inj sketched
      unfold TagRule.TextEffects at texted
      split at texted
      · rename_i hasText
        cases texted
        rw [if_pos hasText, ← sketched]
        rfl
      · rename_i blank
        rw [if_neg blank, ← sketched, texted]
        rfl

end Interpreter

end WidgetMarkup
