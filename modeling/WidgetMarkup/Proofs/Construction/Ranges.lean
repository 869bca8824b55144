import WidgetMarkup.Proofs.Construction.Plans
import WidgetMarkup.Proofs.Construction.Surroundings
import WidgetMarkup.Proofs.Expansion.OutputSize
import WidgetMarkup.Proofs.Markup.Substitution
import WidgetMarkup.Proofs.Vocabulary.RangeAttributes

namespace WidgetMarkup

open Markup

/-!
# Ranges of widgets

The range of a widget is checked once, when the widget is made of its blueprint. What attributes ask
for has been read by then, so it is finite, and nothing that happens to the widget afterwards
changes its range, unless an action does. So every range in a document is one that a node asks for.
-/

/-- Whether the numbers of a range are finite and in order. -/
structure ValueRange.IsValid (range : ValueRange) : Prop where
  leastFinite : range.least.isFinite = true
  greatestFinite : range.greatest.isFinite = true
  stepFinite : range.step.isFinite = true
  valueFinite : range.value.isFinite = true
  ordered : ¬range.least > range.greatest
  stepPositive : ¬range.step ≤ 0.0
  leastLeValue : range.least ≤ range.value
  valueLeGreatest : range.value ≤ range.greatest

namespace RangeRequest

/-- A range that is asked for is what the request says, completed, and in order. -/
theorem resolve_eq_ok
    {request : RangeRequest}
    {range : ValueRange}
    (resolved : request.resolve = .ok range) :
    range =
        { least := request.least.getD 0.0
          greatest := request.greatest.getD 100.0
          step := request.step.getD 1.0
          value := request.value.getD (request.least.getD 0.0) } ∧
      ¬range.least > range.greatest ∧ ¬range.step ≤ 0.0 ∧
      range.least ≤ range.value ∧ range.value ≤ range.greatest := by
  unfold resolve at resolved
  dsimp only at resolved
  split at resolved
  · cases resolved
  · rename_i ordered
    split at resolved
    · cases resolved
    · rename_i stepPositive
      split at resolved
      · rename_i within
        cases resolved
        exact ⟨rfl, ordered, stepPositive, within⟩
      · cases resolved

/-- A number that a value spells is finite. -/
theorem isFinite_of_readNumber?
    {raw : String}
    {number : Float32}
    (isRead : readNumber? raw = some number) :
    number.isFinite = true := by
  unfold readNumber? AttributeValue.readNumber at isRead
  split at isRead
  · rename_i value found
    cases isRead
    exact (Option.filter_eq_some_iff.1 found).2
  · cases isRead

/-- What attributes ask for is finite, and so is what stands in for it. -/
theorem isFinite_getD
    {attributes : List Attribute}
    {part : RangePart}
    {default : Float32}
    (isFinite : default.isFinite = true) :
    (((ofAttributes attributes).part part).getD default).isFinite = true := by
  rw [part_ofAttributes]
  cases asked : (part.last? attributes).bind readNumber? with
  | none =>
      exact isFinite
  | some number =>
      obtain ⟨raw, _, isRead⟩ := Option.bind_eq_some_iff.1 asked
      exact isFinite_of_readNumber? isRead

/-- A range that attributes ask for is valid. -/
theorem isValid_of_resolve
    {attributes : List Attribute}
    {range : ValueRange}
    (resolved : (ofAttributes attributes).resolve = .ok range) :
    range.IsValid := by
  obtain ⟨isRange, ordered, stepPositive, leastLeValue, valueLeGreatest⟩ := resolve_eq_ok resolved
  have least {default : Float32} (isFinite : default.isFinite = true) :
      ((ofAttributes attributes).least.getD default).isFinite = true :=
    @isFinite_getD attributes .least default isFinite
  refine ⟨?_, ?_, ?_, ?_, ordered, stepPositive, leastLeValue, valueLeGreatest⟩
  · rw [isRange]
    exact least (by decide +kernel)
  · rw [isRange]
    exact @isFinite_getD attributes .greatest _ (by decide +kernel)
  · rw [isRange]
    exact @isFinite_getD attributes .step _ (by decide +kernel)
  · rw [isRange]
    exact @isFinite_getD attributes .value _ (least (by decide +kernel))

/-- Without an attribute for it, the value is the least number. -/
theorem value_of_resolve
    {attributes : List Attribute}
    {range : ValueRange}
    (resolved : (ofAttributes attributes).resolve = .ok range)
    (unsaid : ∀ entry ∈ attributes, Text.sameName "value" entry.name = false) :
    range.value = range.least := by
  have noValue : (ofAttributes attributes).part .value = none := by
    rw [part_ofAttributes, RangePart.last?_eq_none, Option.bind_none]
    intro entry member
    exact (Bool.or_false _).trans (unsaid entry member)
  change (ofAttributes attributes).value = none at noValue
  rw [(resolve_eq_ok resolved).1, noValue]
  rfl

end RangeRequest

/-- Whether registered actions leave ranges alone: a widget keeps its range, and no widget with a
range is in a tree with one that none had before. -/
structure Actions.KeepRanges (actions : Actions) : Prop where
  own :
    ∀ name action, actions.find? name = some action →
      ∀ widget : Widget, (action.onWidget widget).1.range = widget.range
  inside :
    ∀ name action, actions.find? name = some action →
      ∀ widget : Widget, ∀ member ∈ (action.onWidget widget).1.postorder,
        member.kind.has .rangeValued = true →
          ∃ old ∈ widget.postorder,
            old.kind.has .rangeValued = true ∧ old.range = member.range

/-- Whether a widget has a range that is allowed, if it is of a kind with ranges. -/
def Widget.HasRangeIn (allowed : ValueRange → Prop) (widget : Widget) : Prop :=
  widget.kind.has .rangeValued = true → ∃ range, widget.range = some range ∧ allowed range

namespace Target

/-- The range of the widget that a target is. -/
def range? (target : Target) : Option ValueRange :=
  target.widget?.bind Widget.range

/-- Whether all ranges that a target brings into a document are allowed. -/
def RangesIn (allowed : ValueRange → Prop) : Target → Prop
  | .widget made => ∀ member ∈ made.postorder, member.HasRangeIn allowed
  | .listener _ => True

end Target

section Effects

variable {allowed : ValueRange → Prop} {target changed : Target}

theorem Target.RangesIn.mono
    {others : ValueRange → Prop}
    (holds : target.RangesIn others)
    (subset : ∀ range, others range → allowed range) :
    target.RangesIn allowed := by
  cases target with
  | widget made =>
      intro member inTree ranged
      obtain ⟨range, isRange, isAllowed⟩ := holds member inTree ranged
      exact ⟨range, isRange, subset range isAllowed⟩
  | listener made =>
      trivial

/-- A widget that holds what another one does, and more, has the ranges of both. -/
theorem Widget.rangesIn_of_children
    {widget changed : Widget}
    {added : List Widget}
    (holds : ∀ member ∈ widget.postorder, member.HasRangeIn allowed)
    (children : changed.children = widget.children ++ added)
    (kind : changed.kind = widget.kind)
    (range : changed.range = widget.range)
    (inAdded : ∀ child ∈ added, ∀ member ∈ child.postorder, member.HasRangeIn allowed) :
    ∀ member ∈ changed.postorder, member.HasRangeIn allowed := by
  obtain ⟨inside, own⟩ := Widget.forall_mem_postorder.1 holds
  refine Widget.forall_mem_postorder.2 ⟨?_, ?_⟩
  · rw [children]
    exact List.forall_mem_append.2 ⟨inside, inAdded⟩
  · unfold HasRangeIn
    rw [kind, range]
    exact own

/-- What actions make of a widget has no other ranges. -/
theorem Actions.KeepRanges.rangesIn
    {actions : Actions}
    (keep : actions.KeepRanges)
    {name : String}
    {action : Action}
    (found : actions.find? name = some action)
    {widget : Widget}
    (holds : ∀ member ∈ widget.postorder, member.HasRangeIn allowed) :
    ∀ member ∈ (action.onWidget widget).1.postorder, member.HasRangeIn allowed := by
  intro member inTree ranged
  obtain ⟨old, wasInTree, wasRanged, sameRange⟩ :=
    keep.inside name action found widget member inTree ranged
  exact sameRange ▸ holds old wasInTree wasRanged

theorem AttributeEffect.range?
    {context : AttributeContext}
    {raw : String}
    (keep : context.actions.KeepRanges)
    (effect : AttributeEffect context raw target changed) :
    changed.range? = target.range? := by
  cases effect with
  | writes _ sameBody =>
      exact sameBody.range
  | runs widget _ found =>
      exact keep.own _ _ found widget
  | listens | fills =>
      rfl

theorem AttributeEffect.rangesIn
    {context : AttributeContext}
    {raw : String}
    (keep : context.actions.KeepRanges)
    (effect : AttributeEffect context raw target changed)
    (holds : target.RangesIn allowed) :
    changed.RangesIn allowed := by
  have noneAdded (children : List Widget) : children = children ++ [] := (List.append_nil _).symm
  cases effect with
  | writes _ sameBody =>
      exact Widget.rangesIn_of_children holds (sameBody.children.trans (noneAdded _)) sameBody.kind
        sameBody.range (List.forall_mem_nil _)
  | listens widget =>
      exact Widget.rangesIn_of_children holds (noneAdded _) rfl rfl (List.forall_mem_nil _)
  | runs widget _ found =>
      exact keep.rangesIn found holds
  | fills =>
      trivial

namespace TagRule

theorem TextEffect.range?
    {text : String}
    {explicit : Bool}
    (effect : TextEffect text explicit target changed) :
    changed.range? = target.range? := by
  cases effect <;> rfl

/-- Text makes no widgets with ranges. -/
theorem TextEffect.rangesIn
    {text : String}
    {explicit : Bool}
    (effect : TextEffect text explicit target changed)
    (holds : target.RangesIn allowed) :
    changed.RangesIn allowed := by
  have noneAdded (children : List Widget) : children = children ++ [] := (List.append_nil _).symm
  cases effect with
  | letters widget =>
      exact Widget.rangesIn_of_children holds (noneAdded _) rfl rfl (List.forall_mem_nil _)
  | labels widget _ _ children =>
      refine Widget.rangesIn_of_children holds children rfl rfl
        (List.forall_mem_map.2 fun line _ => Widget.forall_mem_postorder.2 ⟨?_, ?_⟩)
      · exact List.forall_mem_nil _
      · intro ranged
        have noRange : WidgetKind.label.has .rangeValued = false := by decide +kernel
        cases noRange.symm.trans ranged
  | ignored =>
      exact holds
  | names =>
      trivial

theorem TakingEffect.range?
    {taken : Target}
    (effect : TakingEffect taken target changed) :
    changed.range? = target.range? := by
  cases effect <;> rfl

theorem TakingEffect.rangesIn
    {taken : Target}
    (effect : TakingEffect taken target changed)
    (inTaken : taken.RangesIn allowed)
    (holds : target.RangesIn allowed) :
    changed.RangesIn allowed := by
  cases effect with
  | widget child widget _ children =>
      exact Widget.rangesIn_of_children holds children rfl rfl (List.forall_mem_singleton.2 inTaken)
  | listener listener widget =>
      exact Widget.rangesIn_of_children holds (List.append_nil _).symm rfl rfl
        (List.forall_mem_nil _)

end TagRule

namespace Assembly.ClosingEffect

variable {actions : Actions} {openIds ids ids' : List String} {closed : Target}

theorem range?
    (keep : actions.KeepRanges)
    (effect : ClosingEffect actions openIds ids ids' target closed) :
    closed.range? = target.range? := by
  cases effect with
  | @widget widget changed _ _ runs =>
      exact runs.keeps (fun other => other.range = widget.range)
        (fun name action other found same => (keep.own name action found other).trans same) rfl
  | listener =>
      rfl

theorem rangesIn
    (keep : actions.KeepRanges)
    (effect : ClosingEffect actions openIds ids ids' target closed)
    (holds : target.RangesIn allowed) :
    closed.RangesIn allowed := by
  cases effect with
  | widget _ _ runs =>
      exact runs.keeps (fun other => ∀ member ∈ other.postorder, member.HasRangeIn allowed)
        (fun name action other found holds => keep.rangesIn found holds) holds
  | listener =>
      trivial

end Assembly.ClosingEffect

end Effects

namespace Markup.Node

/-- Whether a node is a tag of a kind of widgets with ranges. -/
def HasRange (node : Node) : Prop :=
  ∃ kind, WidgetKind.ofTag? node.name = some kind ∧ kind.has .rangeValued = true

/-- Whether the attributes of a node ask for a range. -/
def AsksFor (node : Node) (range : ValueRange) : Prop :=
  (RangeRequest.ofAttributes node.attributes).resolve = .ok range

/-- Whether a tag with a range in a forest asks for a range. -/
def AskedIn (nodes : List Node) (range : ValueRange) : Prop :=
  ∃ node, IsWithin nodes node ∧ node.HasRange ∧ node.AsksFor range

end Markup.Node

open Markup.Node (AskedIn)

namespace TagRule

/-- A widget of a kind with ranges is made with the range that its blueprint asks for. -/
theorem range?_of_createOfKind
    {kind : WidgetKind}
    {blueprint : Blueprint}
    {target : Target}
    (ranged : kind.has .rangeValued = true)
    (made : createOfKind kind blueprint = .ok target) :
    ∃ range, blueprint.range.resolve = .ok range ∧ target.range? = some range := by
  unfold createOfKind at made
  dsimp only at made
  rw [if_pos ranged] at made
  cases resolved : blueprint.range.resolve with
  | error problem =>
      rw [resolved] at made
      cases made
  | ok range =>
      rw [resolved] at made
      cases made
      exact ⟨range, rfl, rfl⟩

/-- A widget that is made brings in its own range only. -/
theorem rangesIn_of_createOfKind
    {allowed : ValueRange → Prop}
    {kind : WidgetKind}
    {blueprint : Blueprint}
    {target : Target}
    (made : createOfKind kind blueprint = .ok target)
    (isAllowed :
      kind.has .rangeValued = true → ∃ range, target.range? = some range ∧ allowed range) :
    target.RangesIn allowed := by
  obtain ⟨range, _, rfl⟩ := createOfKind_eq_ok made
  refine Widget.forall_mem_postorder.2 ⟨?_, isAllowed⟩
  cases kind <;> exact List.forall_mem_nil _

end TagRule

/-- What attributes make of a target leaves its range and those inside it. -/
theorem AttributeEffects.ranges
    {interpreter : Interpreter}
    (keep : interpreter.actions.KeepRanges)
    {entries : List Attribute}
    {target changed : Target}
    (effects : AttributeEffects interpreter entries target changed) :
    changed.range? = target.range? ∧
      ∀ allowed, target.RangesIn allowed → changed.RangesIn allowed := by
  induction effects with
  | nothing target =>
      exact ⟨rfl, fun _ holds => holds⟩
  | skips _ _ inductionHypothesis =>
      exact inductionHypothesis
  | applies first _ inductionHypothesis =>
      exact ⟨inductionHypothesis.1.trans (first.range? keep), fun allowed holds =>
        inductionHypothesis.2 allowed (first.rangesIn keep holds)⟩

namespace Interpreter

variable {interpreter : Interpreter}

/-- What a tag is begun with has the range that it is made with, and those alone. -/
theorem Begins.exists_ranges
    (keep : interpreter.actions.KeepRanges)
    {rule : TagRule}
    {inTable : Bool}
    {node : Node}
    {target : Target}
    (begins : interpreter.Begins rule inTable node target) :
    ∃ blueprint made,
      BlueprintEffects
          (SplitAttributes.ofAttributes interpreter.vocabulary rule.features inTable
            node.attributes).building
          {} blueprint ∧
        rule.create blueprint = .ok made ∧ target.range? = made.range? ∧
          ∀ allowed, made.RangesIn allowed → target.RangesIn allowed := by
  obtain ⟨blueprint, made, attributed, written, created, applied, texted⟩ := begins
  have attributes := applied.ranges keep
  refine ⟨blueprint, made, written, created, ?_⟩
  unfold TagRule.TextEffects at texted
  split at texted
  · exact ⟨texted.range?.trans attributes.1, fun allowed holds =>
      texted.rangesIn (attributes.2 allowed holds)⟩
  · exact texted ▸ attributes

/-- A tag of a kind with ranges is begun with the range that it asks for, and no tag is begun with
another range. -/
theorem Begins.ranges
    (standard : interpreter.vocabulary = .standard)
    (keep : interpreter.actions.KeepRanges)
    {rule : TagRule}
    {inTable : Bool}
    {node : Node}
    {target : Target}
    (found : interpreter.vocabulary.tag? node.name = some rule)
    (begins : interpreter.Begins rule inTable node target) :
    (node.HasRange → ∃ range, node.AsksFor range ∧ target.range? = some range) ∧
      target.RangesIn (AskedIn [node]) := by
  obtain ⟨blueprint, made, written, created, sameRange, inside⟩ := begins.exists_ranges keep
  rw [standard] at found written
  rcases Vocabulary.ofTag?_of_tag?_standard found with
    ⟨kind, isKind, rfl⟩ | ⟨event, noKind, _, rfl⟩
  · have own (ranged : kind.has .rangeValued = true) :
        ∃ range, node.AsksFor range ∧ made.range? = some range := by
      obtain ⟨range, resolved, isRange⟩ := TagRule.range?_of_createOfKind ranged created
      have features : (TagRule.ofKind kind).features = Vocabulary.rangeFeatures := if_pos ranged
      rw [features] at written
      rw [written.range, RangeRequest.foldl_written] at resolved
      exact ⟨range, resolved, isRange⟩
    rw [sameRange]
    refine ⟨?_, inside _ (TagRule.rangesIn_of_createOfKind created fun ranged => ?_)⟩
    · rintro ⟨_, isOther, ranged⟩
      cases isKind.symm.trans isOther
      exact own ranged
    · obtain ⟨range, asked, isRange⟩ := own ranged
      exact ⟨range, isRange, node, .root (List.mem_singleton_self _), ⟨kind, isKind, ranged⟩, asked⟩
  · cases created
    refine ⟨?_, inside _ trivial⟩
    rintro ⟨_, isKind, _⟩
    cases noKind.symm.trans isKind

/-- What is built has the ranges that its tags ask for: a tag its own, and nothing else than those
asked for inside it, which taking in what is built there leaves as it is. -/
theorem buildSteps_ranges
    (standard : interpreter.vocabulary = .standard)
    (keep : interpreter.actions.KeepRanges) :
    interpreter.BuildSteps
      (fun _ node _ built _ =>
        ∀ target, built = some target →
          (node.HasRange → ∃ range, node.AsksFor range ∧ target.range? = some range) ∧
            target.RangesIn (AskedIn [node]))
      (fun _ target nodes _ filled _ =>
        filled.range? = target.range? ∧
          ∀ allowed, (∀ range, AskedIn nodes range → allowed range) →
            target.RangesIn allowed → filled.RangesIn allowed) where
  leftOut _ := nofun
  closes {_ node} _ _ _ _ _ _ _ _ found _ begins children closing := by
    rintro _ ⟨⟩
    obtain ⟨own, inside⟩ := begins.ranges standard keep found
    -- Taking in children and closing keep the range that the tag is begun with.
    rw [closing.range? keep, children.1]
    refine ⟨own, closing.rangesIn keep (children.2 _ ?_ inside)⟩
    rintro range ⟨asking, isWithin, asked⟩
    exact ⟨asking, isWithin.ofChildren (List.mem_singleton_self _), asked⟩
  nil _ _ _ := ⟨rfl, fun _ _ holds => holds⟩
  skips _ rest := by
    refine ⟨rest.1, fun allowed isAllowed => rest.2 allowed ?_⟩
    rintro range ⟨asking, isWithin, asked⟩
    exact isAllowed range ⟨asking, isWithin.mono fun _ => List.mem_cons_of_mem _, asked⟩
  takes first taking rest := by
    refine ⟨rest.1.trans taking.range?, fun allowed isAllowed holds => rest.2 allowed ?_ ?_⟩
    · rintro range ⟨asking, isWithin, asked⟩
      exact isAllowed range ⟨asking, isWithin.mono fun _ => List.mem_cons_of_mem _, asked⟩
    · refine taking.rangesIn ((first _ rfl).2.mono ?_) holds
      rintro range ⟨asking, isWithin, asked⟩
      refine isAllowed range ⟨asking, isWithin.mono fun root isRoot => ?_, asked⟩
      cases List.mem_singleton.1 isRoot
      exact List.mem_cons_self

theorem RootEffect.rangesIn
    {allowed : ValueRange → Prop}
    {target : Target}
    {roots placed : List Widget}
    (effect : RootEffect target roots placed)
    (inTarget : target.RangesIn allowed)
    (holds : ∀ root ∈ roots, ∀ member ∈ root.postorder, member.HasRangeIn allowed) :
    ∀ root ∈ placed, ∀ member ∈ root.postorder, member.HasRangeIn allowed := by
  cases effect with
  | widget widget roots =>
      exact List.forall_mem_cons.2 ⟨inTarget, holds⟩
  | listener listener previous others =>
      obtain ⟨inPrevious, inOthers⟩ := List.forall_mem_cons.1 holds
      refine List.forall_mem_cons.2 ⟨?_, inOthers⟩
      exact Widget.rangesIn_of_children inPrevious (List.append_nil _).symm rfl rfl
        (List.forall_mem_nil _)

/-- Every range in a document that is built is one that a tag asks for. -/
theorem rangesIn_of_runConstruction
    (standard : interpreter.vocabulary = .standard)
    (keep : interpreter.actions.KeepRanges)
    {journal : Journal}
    {nodes : List Node}
    {document : Document}
    (ran : (interpreter.runConstruction journal nodes).result = .ok document) :
    ∀ widget ∈ document.widgets, widget.HasRangeIn (AskedIn nodes) := by
  have inRoots :
      ∀ root ∈ document.roots.reverse, ∀ member ∈ root.postorder,
        member.HasRangeIn (AskedIn nodes) := by
    refine (runConstruction_eq_ok standard (buildSteps_ranges standard keep)
      (fun rest roots _ => (∀ node ∈ rest, node ∈ nodes) ∧
        ∀ root ∈ roots, ∀ member ∈ root.postorder, member.HasRangeIn (AskedIn nodes))
      ?skips ?places ⟨fun _ member => member, List.forall_mem_nil _⟩ ran).2
    case skips =>
      rintro _ _ _ _ _ ⟨areNodes, holds⟩ _
      exact ⟨(List.forall_mem_cons.1 areNodes).2, holds⟩
    case places =>
      rintro node rest _ _ _ _ _ ⟨areNodes, holds⟩ first placed
      obtain ⟨isNode, others⟩ := List.forall_mem_cons.1 areNodes
      refine ⟨others, placed.rangesIn ((first _ rfl).2.mono ?_) holds⟩
      rintro range ⟨asking, isWithin, asked⟩
      refine ⟨asking, isWithin.mono fun root isRoot => ?_, asked⟩
      exact (List.mem_singleton.1 isRoot) ▸ isNode
  intro widget member
  obtain ⟨root, isRoot, inTree⟩ := List.mem_flatMap.1 member
  exact inRoots root (List.mem_reverse.2 isRoot) widget inTree

/-- A tag of a kind with ranges is built with the range that it asks for. -/
theorem Builds.range?
    (standard : interpreter.vocabulary = .standard)
    (keep : interpreter.actions.KeepRanges)
    {cells : Option CellProperties}
    {node : Node}
    {closed : ClosedTag}
    (builds : interpreter.Builds cells node closed)
    (hasRange : node.HasRange) :
    ∃ range, node.AsksFor range ∧ closed.target.range? = some range := by
  obtain ⟨_, _, _, _, ran⟩ := builds
  have isTag := (buildSteps_ranges standard keep).tag_of_buildTag standard _ _ _ _ _ _ _ ran
  exact (isTag closed.target rfl).1 hasRange

/--
Valid ranges only: with the vocabulary of the language and actions that leave ranges alone, every
widget of a document that is of a kind with ranges has a range that is finite and in order, and that
a tag asks for. A tag that is built has the range that it asks for, whose value is the least number
if no attribute gives one, and two tags whose last values for each part of the range are the same
have the same range.
-/
theorem isValid_range_of_runWithin
    (interpreter : Interpreter)
    (standard : interpreter.vocabulary = .standard)
    (keep : interpreter.actions.KeepRanges) :
    (∀ imports source document,
      (interpreter.runWithin imports source).result = .ok document →
        ∀ widget ∈ document.widgets, widget.kind.has .rangeValued = true →
          ∃ range,
            widget.range = some range ∧ range.IsValid ∧
              ∃ nodes expanded scope journal node,
                forestOfSource interpreter.settings.marker source = .ok nodes ∧
                  interpreter.runExpansion imports nodes = ⟨.ok (expanded, scope), journal⟩ ∧
                  Node.IsWithin expanded node ∧ node.HasRange ∧ node.AsksFor range ∧
                  ((∀ entry ∈ node.attributes, Text.sameName "value" entry.name = false) →
                    range.value = range.least)) ∧
      (∀ cells node closed,
        interpreter.Builds cells node closed → node.HasRange →
          ∃ range,
            closed.target.range? = some range ∧ range.IsValid ∧ node.AsksFor range ∧
              ((∀ entry ∈ node.attributes, Text.sameName "value" entry.name = false) →
                range.value = range.least)) ∧
      ∀ cells node closed cells' node' closed',
        interpreter.Builds cells node closed → interpreter.Builds cells' node' closed' →
          node.HasRange → node'.HasRange →
          (∀ part : RangePart, part.last? node.attributes = part.last? node'.attributes) →
            closed.target.range? = closed'.target.range? := by
  refine ⟨?document, ?tag, ?lastValues⟩
  case document =>
    intro imports source document ran widget member ranged
    obtain ⟨nodes, expanded, scope, journal, read, expansion, construction⟩ :=
      exists_construction_of_runWithin ran
    rw [construction] at ran
    obtain ⟨range, isRange, node, isWithin, hasRange, asked⟩ :=
      rangesIn_of_runConstruction standard keep ran widget member ranged
    exact ⟨range, isRange, RangeRequest.isValid_of_resolve asked,
      nodes, expanded, scope, journal, node, read, expansion, isWithin, hasRange, asked,
      RangeRequest.value_of_resolve asked⟩
  case tag =>
    intro cells node closed builds hasRange
    obtain ⟨range, asked, isRange⟩ := builds.range? standard keep hasRange
    exact ⟨range, isRange, RangeRequest.isValid_of_resolve asked, asked,
      RangeRequest.value_of_resolve asked⟩
  case lastValues =>
    intro cells node closed cells' node' closed' builds builds' hasRange hasRange' same
    obtain ⟨range, asked, isRange⟩ := builds.range? standard keep hasRange
    obtain ⟨range', asked', isRange'⟩ := builds'.range? standard keep hasRange'
    unfold Node.AsksFor at asked asked'
    rw [RangeRequest.ofAttributes_congr same, asked'] at asked
    cases asked
    rw [isRange, isRange']

/-- A progress bar is given two steps, and its least number stands between them; a slider with an
action has the same range as a bar whose least number is given twice. -/
theorem isValid_range_of_runWithin_progressBars :
    let interpreter : Interpreter :=
      { vocabulary := .standard, actions := ({} : Actions).insert "wait" {} }
    let source :=
      "<window onCreate=\"wait\"><progressBar step=\"2\" min=\"4\" stepSize=\"3\"/></window>"
    let early : Node :=
      { name := "progressBar", attributes := [⟨"min", "7"⟩, ⟨"step", "2"⟩, ⟨"min", "4"⟩] }
    let late : Node :=
      { name := "slider", attributes := [⟨"stepSize", "2"⟩, ⟨"onChange", "wait"⟩, ⟨"min", "4"⟩] }
    interpreter.actions.KeepRanges ∧
      (∃ document,
        (interpreter.runWithin [] source).result = .ok document ∧
          (document.widgets.map fun widget => widget.range.map ValueRange.least) =
            [some 4.0, none] ∧
          ∀ widget ∈ document.widgets, widget.kind.has .rangeValued = true →
            ∃ range, widget.range = some range ∧ range.IsValid) ∧
      ∃ closed closed',
        interpreter.Builds none early closed ∧ interpreter.Builds none late closed' ∧
          closed.target.range?.isSome = true ∧ closed.target.range? = closed'.target.range? := by
  intro interpreter source early late
  have keep : interpreter.actions.KeepRanges := by
    constructor
    · intro name action found widget
      rw [Actions.eq_of_find?_insert found]
    · intro name action found widget member inTree ranged
      rw [Actions.eq_of_find?_insert found] at inTree
      exact ⟨member, inTree, ranged, rfl⟩
  obtain ⟨documents, tags, lastValues⟩ := isValid_range_of_runWithin interpreter rfl keep
  refine ⟨keep, ?_, ?_⟩
  · have built :
        (interpreter.runWithin [] source).result.toOption.map (fun document =>
          document.widgets.map fun widget => widget.range.map ValueRange.least) =
            some [some 4.0, none] := by
      decide +kernel
    obtain ⟨document, ran, seen⟩ := Run.exists_ok_of_seen built
    refine ⟨document, ran, seen, fun widget member ranged => ?_⟩
    obtain ⟨range, isRange, isValid, _⟩ := documents [] source document ran widget member ranged
    exact ⟨range, isRange, isValid⟩
  · obtain ⟨closed, isEarly⟩ :=
      @exists_builds_of_buildAlone interpreter none early (by decide +kernel)
    obtain ⟨closed', isLate⟩ :=
      @exists_builds_of_buildAlone interpreter none late (by decide +kernel)
    have earlyRange : early.HasRange := ⟨.progressBar, by decide +kernel, by decide +kernel⟩
    have lateRange : late.HasRange := ⟨.slider, by decide +kernel, by decide +kernel⟩
    refine ⟨closed, closed', isEarly, isLate, ?_, ?_⟩
    · obtain ⟨range, isRange, _⟩ := tags none early closed isEarly earlyRange
      rw [isRange]
      rfl
    · refine lastValues none early closed none late closed' isEarly isLate earlyRange lateRange ?_
      intro part
      cases part <;> decide +kernel

end Interpreter

end WidgetMarkup
