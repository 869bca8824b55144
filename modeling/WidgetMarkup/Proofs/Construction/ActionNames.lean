import WidgetMarkup.Proofs.Construction.ActionOrder
import WidgetMarkup.Proofs.Construction.Plans
import WidgetMarkup.Proofs.Expansion.OutputSize
import WidgetMarkup.Proofs.Markup.Substitution

namespace WidgetMarkup

open Markup

/-!
# The names of the actions that are run

The names of the actions that a document runs can be read off its nodes: those of a tag that makes a
widget come around those of the nodes inside it, and no other tag runs any. A reference is made a
bare name when an action is run, and one that is put off is made a bare name before that as well.
-/

namespace Markup.Node

/-- The references to the actions that a node runs before anything inside it is built. -/
def creatingReferences (node : Node) : List String :=
  (node.attributes.filter Attribute.isCreating).map Attribute.value

/-- The references to the actions that a node runs after everything inside it is built. -/
def closingReferences (node : Node) : List String :=
  (node.attributes.filter Attribute.isClosing).map Attribute.value

mutual

/-- The names of the actions that are run for a node, given what a reference that is put off stands
for in the end. -/
def actionNames (atClose : String → String) : Node → List String
  | ⟨name, isMacro, attributes, children, text, position⟩ =>
      let node : Node := ⟨name, isMacro, attributes, children, text, position⟩
      if (WidgetKind.ofTag? name).isSome then
        node.creatingReferences.map Actions.bareName ++ actionNamesAll atClose children ++
          node.closingReferences.map atClose
      else
        []

/-- The names of the actions that are run for the nodes of a forest, one after another. -/
def actionNamesAll (atClose : String → String) : List Node → List String
  | [] => []
  | node :: rest => node.actionNames atClose ++ actionNamesAll atClose rest

end

theorem actionNames_eq
    (atClose : String → String)
    (node : Node) :
    node.actionNames atClose =
      if (WidgetKind.ofTag? node.name).isSome then
        node.creatingReferences.map Actions.bareName ++ actionNamesAll atClose node.children ++
          node.closingReferences.map atClose
      else
        [] := by
  cases node
  rw [actionNames]

section Congruence

variable {atClose atClose' : String → String}

theorem actionNames_congr_of_inside
    {node : Node}
    (same : ∀ reference ∈ node.closingReferences, atClose reference = atClose' reference)
    (inside : actionNamesAll atClose node.children = actionNamesAll atClose' node.children) :
    node.actionNames atClose = node.actionNames atClose' := by
  rw [actionNames_eq, actionNames_eq, inside, List.map_congr_left same]

mutual

theorem actionNames_congr :
    ∀ node : Node,
      (∀ reference ∈ node.closingReferences, atClose reference = atClose' reference) →
        (∀ inner, IsWithin node.children inner →
          ∀ reference ∈ inner.closingReferences, atClose reference = atClose' reference) →
        node.actionNames atClose = node.actionNames atClose'
  | ⟨_, _, _, children, _, _⟩, same, inside =>
      actionNames_congr_of_inside same (actionNamesAll_congr children inside)

/-- The names depend on no more than what the references that are put off stand for. -/
theorem actionNamesAll_congr :
    ∀ nodes : List Node,
      (∀ inner, IsWithin nodes inner →
        ∀ reference ∈ inner.closingReferences, atClose reference = atClose' reference) →
        actionNamesAll atClose nodes = actionNamesAll atClose' nodes
  | [], _ => rfl
  | node :: rest, same => by
      rw [actionNamesAll, actionNamesAll,
        actionNames_congr node (same node (.root (List.mem_cons_self ..))) fun inner isWithin =>
          same inner (isWithin.ofChildren (List.mem_cons_self ..)),
        actionNamesAll_congr rest fun inner isWithin =>
          same inner (isWithin.mono fun _ listed => .tail _ listed)]

end

end Congruence

end Markup.Node

/-- No tag that the language does not have is named for a kind. -/
theorem Vocabulary.ofTag?_eq_none
    {name : String}
    (unknown : standard.tag? name = none) :
    WidgetKind.ofTag? name = none := by
  have known : ∀ kind ∈ WidgetKind.all, (standard.tag? kind.name).isSome := by
    decide +kernel
  cases found : WidgetKind.ofTag? name with
  | none =>
      rfl
  | some kind =>
      have isKnown := known kind (List.mem_of_find?_eq_some found)
      have same := List.find?_some found
      unfold tag? NameTable.find? at isKnown unknown
      rw [Text.sameName_iff.1 same, unknown] at isKnown
      cases isKnown

/-- What attributes run and put off is named by them. -/
theorem AttributeRuns.names
    {interpreter : Interpreter}
    {entries : List Attribute}
    {target changed : Target}
    {runs : List ActionRun}
    {queue : List String}
    (attributeRuns : AttributeRuns interpreter entries target changed runs queue) :
    runs.map ActionRun.action =
        (entries.filter Attribute.isCreating).map (Actions.bareName ∘ Attribute.value) ∧
      queue = (entries.filter Attribute.isClosing).map (Actions.bareName ∘ Attribute.value) := by
  induction attributeRuns with
  | nothing target =>
      exact ⟨rfl, rfl⟩
  | @skips entry _ _ _ _ _ _ runsNothing _ inductionHypothesis =>
      have notCreating : entry.isCreating = false := runsNothing.1
      have notClosing : entry.isClosing = false := runsNothing.2
      rw [List.filter_cons, List.filter_cons, notCreating, notClosing]
      exact inductionHypothesis
  | @applies entry _ _ _ _ _ _ _ _ applied _ inductionHypothesis =>
      obtain ⟨creating, closing⟩ := inductionHypothesis
      rw [List.map_append, creating, closing, List.filter_cons, List.filter_cons]
      cases applied with
      | silent runsNothing =>
          have notCreating : entry.isCreating = false := runsNothing.1
          have notClosing : entry.isClosing = false := runsNothing.2
          rw [notCreating, notClosing]
          exact ⟨rfl, rfl⟩
      | creates _ named =>
          have isCreating : entry.isCreating = true := named
          have notClosing : entry.isClosing = false := Declaration.not_closing_of_creating named
          rw [isCreating, notClosing]
          exact ⟨rfl, rfl⟩
      | closes _ named =>
          have notCreating : entry.isCreating = false := Declaration.not_creating_of_closing named
          have isClosing : entry.isClosing = true := named
          rw [notCreating, isClosing]
          exact ⟨rfl, rfl⟩

theorem Actions.RunsInTurn.names
    {actions : Actions}
    {references : List String}
    {widget changed : Widget}
    {runs : List ActionRun}
    (inTurn : actions.RunsInTurn references widget changed runs) :
    runs.map ActionRun.action = references.map bareName := by
  induction inTurn with
  | nothing widget =>
      rfl
  | next _ _ inductionHypothesis =>
      rw [List.map_cons, List.map_cons, inductionHypothesis]

section Sorts

variable {interpreter : Interpreter} {target changed : Target} {runs : List ActionRun}

/-- Attributes and text make widgets of widgets and listeners of listeners. -/
theorem AttributeRuns.isWidget_iff
    {entries : List Attribute}
    {queue : List String}
    (attributeRuns : AttributeRuns interpreter entries target changed runs queue) :
    changed.widget?.isSome = target.widget?.isSome := by
  induction attributeRuns with
  | nothing =>
      rfl
  | skips _ _ _ inductionHypothesis =>
      exact inductionHypothesis
  | applies applied _ inductionHypothesis =>
      rw [inductionHypothesis]
      cases applied with
      | silent _ effect =>
          cases effect <;> rfl
      | creates =>
          rfl
      | closes =>
          rfl

/-- Attributes of a listener run nothing and put nothing off. -/
theorem AttributeRuns.of_listener
    {entries : List Attribute}
    {queue : List String}
    (attributeRuns : AttributeRuns interpreter entries target changed runs queue)
    (isListener : target.widget? = none) :
    runs = [] ∧ queue = [] := by
  induction attributeRuns with
  | nothing =>
      exact ⟨rfl, rfl⟩
  | skips _ _ _ inductionHypothesis =>
      exact inductionHypothesis isListener
  | applies applied _ inductionHypothesis =>
      cases applied with
      | silent _ effect =>
          cases effect with
          | fills listener =>
              exact inductionHypothesis rfl
          | writes | listens | runs =>
              cases isListener
      | creates =>
          cases isListener
      | closes =>
          cases isListener

/-- Text inside a tag makes widgets of widgets and listeners of listeners. -/
theorem TagRule.TextEffects.isWidget_iff
    {node : Node}
    {explicit : Bool}
    (effects : TagRule.TextEffects node explicit target changed) :
    changed.widget?.isSome = target.widget?.isSome := by
  unfold TagRule.TextEffects at effects
  split at effects
  · cases effects <;> rfl
  · rw [effects]

theorem ClosingRuns.names
    {actions : Actions}
    {queue : List String}
    (closing : ClosingRuns actions queue target changed runs)
    (isWidget : target.widget?.isSome = true) :
    runs.map ActionRun.action = queue.map Actions.bareName := by
  cases closing with
  | widget inTurn =>
      exact inTurn.names
  | listener =>
      cases isWidget

theorem ClosingRuns.of_listener
    {actions : Actions}
    {queue : List String}
    (closing : ClosingRuns actions queue target changed runs)
    (isListener : target.widget? = none) :
    runs = [] := by
  cases closing with
  | widget =>
      cases isListener
  | listener =>
      rfl

namespace Interpreter

theorem TagRuns.of_none
    {node : Node}
    (tagRuns : interpreter.TagRuns node none runs) :
    runs = [] := by
  cases tagRuns
  rfl

/-- Nothing is built inside a listener, so nothing runs there. -/
theorem InsideRuns.of_listener
    {nodes : List Node}
    (inside : interpreter.InsideRuns target nodes changed runs)
    (isListener : target.widget? = none) :
    changed = target ∧ runs = [] := by
  induction nodes generalizing target runs with
  | nil =>
      cases inside
      exact ⟨rfl, rfl⟩
  | cons node rest inductionHypothesis =>
      cases inside with
      | skips leftOut fills =>
          obtain ⟨same, noOthers⟩ := inductionHypothesis fills isListener
          rw [leftOut.of_none, noOthers]
          exact ⟨same, rfl⟩
      | takes _ takes _ =>
          cases takes <;> cases isListener

theorem InsideRuns.isWidget
    {nodes : List Node}
    (inside : interpreter.InsideRuns target nodes changed runs)
    (isWidget : target.widget?.isSome = true) :
    changed.widget?.isSome = true := by
  induction nodes generalizing target runs with
  | nil =>
      cases inside
      exact isWidget
  | cons node rest inductionHypothesis =>
      cases inside with
      | skips _ fills =>
          exact inductionHypothesis fills isWidget
      | takes _ takes fills =>
          exact inductionHypothesis fills (by cases takes <;> rfl)

/-- What a node is begun with is a widget or a listener as its rule says, and what its attributes
run and put off is named by them; those of a listener run nothing and put nothing off. -/
theorem BeginsWith.names
    (standard : interpreter.vocabulary = .standard)
    {rule : TagRule}
    {inTable : Bool}
    {node : Node}
    {queue : List String}
    (begins : interpreter.BeginsWith rule inTable node target runs queue)
    (found : interpreter.vocabulary.tag? node.name = some rule) :
    target.widget?.isSome = (WidgetKind.ofTag? node.name).isSome ∧
      if (WidgetKind.ofTag? node.name).isSome then
        runs.map ActionRun.action = node.creatingReferences.map Actions.bareName ∧
          queue = node.closingReferences.map Actions.bareName
      else
        runs = [] ∧ queue = [] := by
  rw [standard] at found
  obtain ⟨blueprint, made, attributed, _, created, attributeRuns, texted⟩ := begins
  rw [standard] at attributeRuns
  have sameSort : target.widget?.isSome = made.widget?.isSome :=
    texted.isWidget_iff.trans attributeRuns.isWidget_iff
  rcases Vocabulary.ofTag?_of_tag?_standard found with
    ⟨kind, isKind, rfl⟩ | ⟨event, noKind, _, rfl⟩
  · obtain ⟨_, _, rfl⟩ := TagRule.createOfKind_eq_ok created
    rw [isKind, sameSort]
    refine ⟨rfl, ?_⟩
    obtain ⟨creating, closing⟩ := attributeRuns.names
    rw [@SplitAttributes.filter_target Attribute.isCreating fun _ silent => silent.1] at creating
    rw [@SplitAttributes.filter_target Attribute.isClosing fun _ silent => silent.2] at closing
    rw [if_pos (by rfl), creating, closing, Node.creatingReferences, Node.closingReferences,
      List.map_map, List.map_map]
    exact ⟨rfl, rfl⟩
  · cases created
    rw [noKind, sameSort]
    exact ⟨rfl, attributeRuns.of_listener rfl⟩

/-- What a reference that is put off stands for: it is made a bare name when the attribute is
applied and once more when the action is run. -/
def nameAtClose : String → String :=
  Actions.bareName ∘ Actions.bareName

/-- A node has the names of what it runs if the nodes inside it do. -/
theorem TagRuns.names_of_inside
    (standard : interpreter.vocabulary = .standard)
    {node : Node}
    (children :
      ∀ target filled runs,
        interpreter.InsideRuns target node.children filled runs →
          runs.map ActionRun.action = Node.actionNamesAll nameAtClose node.children)
    {built : Option Target}
    (tagRuns : interpreter.TagRuns node built runs) :
    runs.map ActionRun.action = node.actionNames nameAtClose := by
  rw [Node.actionNames_eq]
  cases tagRuns with
  | leftOut _ unknown =>
      rw [standard] at unknown
      rw [Vocabulary.ofTag?_eq_none unknown]
      rfl
  | builds found begins fills closes =>
      obtain ⟨sort, named⟩ := begins.names standard found
      split at named
      · rename_i isKind
        obtain ⟨creating, rfl⟩ := named
        rw [isKind] at sort
        rw [if_pos isKind, List.map_append, List.map_append, creating, children _ _ _ fills,
          closes.names (fills.isWidget sort), List.map_map]
        rfl
      · rename_i noKind
        obtain ⟨rfl, rfl⟩ := named
        have isListener : Target.widget? _ = none :=
          Option.not_isSome_iff_eq_none.1 (sort ▸ noKind)
        obtain ⟨rfl, rfl⟩ := fills.of_listener isListener
        rw [if_neg noKind, closes.of_listener isListener]
        rfl

mutual

theorem TagRuns.names
    (standard : interpreter.vocabulary = .standard) :
    ∀ node built runs,
      interpreter.TagRuns node built runs →
        runs.map ActionRun.action = node.actionNames nameAtClose
  | ⟨_, _, _, children, _, _⟩, _, _, tagRuns =>
      tagRuns.names_of_inside standard (InsideRuns.names standard children)

theorem InsideRuns.names
    (standard : interpreter.vocabulary = .standard) :
    ∀ nodes target filled runs,
      interpreter.InsideRuns target nodes filled runs →
        runs.map ActionRun.action = Node.actionNamesAll nameAtClose nodes
  | [], _, _, _, fills => by
      cases fills
      rfl
  | node :: rest, _, _, _, fills => by
      rw [Node.actionNamesAll]
      cases fills with
      | skips leftOut others =>
          rw [List.map_append, TagRuns.names standard node _ _ leftOut,
            InsideRuns.names standard rest _ _ _ others]
      | takes builds _ others =>
          rw [List.map_append, TagRuns.names standard node _ _ builds,
            InsideRuns.names standard rest _ _ _ others]

end

/-- The names of what the nodes of a document run are read off them. -/
theorem RootRuns.names
    (standard : interpreter.vocabulary = .standard)
    {roots final : List Widget}
    {nodes : List Node}
    (rootRuns : interpreter.RootRuns roots nodes final runs) :
    runs.map ActionRun.action = Node.actionNamesAll nameAtClose nodes := by
  induction rootRuns with
  | nothing =>
      rfl
  | skips leftOut _ inductionHypothesis =>
      rw [Node.actionNamesAll, List.map_append, TagRuns.names standard _ _ _ leftOut,
        inductionHypothesis]
  | places builds _ _ inductionHypothesis =>
      rw [Node.actionNamesAll, List.map_append, TagRuns.names standard _ _ _ builds,
        inductionHypothesis]

end Interpreter

end Sorts

namespace Interpreter

/--
A document calls the actions that its expansion calls, and then those that its nodes run: for each
root in turn first what the attributes of a tag run on its fresh widget, then what the tags inside
it run, and then what was put off, on the widget that has taken in what is inside. The names of the
latter calls are read off the nodes, no tag running any but those that make widgets; a reference
that is put off is made a bare name twice, which is the same as once unless the name itself begins
with a dollar sign or with a blank.
-/
theorem calls_of_runWithin
    (interpreter : Interpreter)
    (standard : interpreter.vocabulary = .standard)
    (imports : List String)
    (source : String)
    (document : Document)
    (ran : (interpreter.runWithin imports source).result = .ok document) :
    ∃ nodes expanded scope journal runs,
      forestOfSource interpreter.settings.marker source = .ok nodes ∧
        interpreter.runExpansion imports nodes = ⟨.ok (expanded, scope), journal⟩ ∧
        (interpreter.runWithin imports source).journal.calls.toList =
          journal.calls.toList ++ runs.map ActionRun.call ∧
        interpreter.RootRuns [] expanded document.roots.reverse runs ∧
        runs.map ActionRun.action = Node.actionNamesAll nameAtClose expanded ∧
        ((∀ node, Node.IsWithin expanded node → ∀ reference ∈ node.closingReferences,
            nameAtClose reference = Actions.bareName reference) →
          runs.map ActionRun.action = Node.actionNamesAll Actions.bareName expanded) := by
  obtain ⟨nodes, expanded, scope, journal, read, expansion, construction⟩ :=
    exists_construction_of_runWithin ran
  rw [construction] at ran ⊢
  obtain ⟨runs, rootRuns, adds⟩ := rootRuns_of_runConstruction standard ran
  have names := rootRuns.names standard
  refine ⟨nodes, expanded, scope, journal, runs, read, expansion, adds, rootRuns, names, ?_⟩
  exact fun stable => names.trans (Node.actionNamesAll_congr expanded stable)

/-- The actions of a tag are run around those of the tag inside it. -/
theorem calls_of_runWithin_nested :
    let interpreter : Interpreter :=
      { vocabulary := .standard, actions := ⟨[("open", {}), ("shut", {})]⟩ }
    let source := "<group close=\"shut\" init=\"open\"><label create=\"$open\"/></group>"
    ∃ document expanded, ∃ (journal : Journal) (runs : List ActionRun),
      (interpreter.runWithin [] source).result = .ok document ∧
        interpreter.RootRuns [] expanded document.roots.reverse runs ∧
        journal.calls.toList.map ActionCall.action ++ runs.map ActionRun.action =
          ["open", "open", "shut"] ∧
        runs.map ActionRun.action = Node.actionNamesAll nameAtClose expanded := by
  intro interpreter source
  have called :
      (interpreter.runWithin [] source).result.isOk = true ∧
        (interpreter.runWithin [] source).journal.calls.toList.map ActionCall.action =
          ["open", "open", "shut"] := by
    decide +kernel
  cases ran : (interpreter.runWithin [] source).result with
  | error problem =>
      rw [ran] at called
      cases called.1
  | ok document =>
      obtain ⟨_, expanded, _, journal, runs, _, _, calls, rootRuns, names, _⟩ :=
        calls_of_runWithin interpreter rfl [] source document ran
      refine ⟨document, expanded, journal, runs, rfl, rootRuns, ?_, names⟩
      rw [← called.2, calls, List.map_append, List.map_map]
      rfl

/-- An interpreter with two actions, one named as the other is behind a dollar sign. -/
def signing : Interpreter where
  vocabulary := .standard
  actions := ⟨[("$x", {}), ("x", {})]⟩

/-- A tag refers to the same action by an attribute for its beginning and by one for its end, and
another action is run in the end. -/
theorem calls_of_doubledSign :
    let source := "<label onCreate=\"$$x\" onClose=\"$$x\"/>"
    ∃ nodes expanded scope journal document,
      forestOfSource signing.settings.marker source = .ok nodes ∧
        signing.runExpansion [] nodes = ⟨.ok (expanded, scope), journal⟩ ∧
        (signing.runWithin [] source).result = .ok document ∧
        journal.calls = #[] ∧
        (signing.runWithin [] source).journal.calls.toList.map ActionCall.action = ["$x", "x"] ∧
        Node.actionNamesAll Actions.bareName expanded = ["$x", "$x"] := by
  intro source
  have called :
      (signing.runWithin [] source).result.isOk = true ∧
        (signing.runWithin [] source).journal.calls.toList.map ActionCall.action =
          ["$x", "x"] := by
    decide +kernel
  have told :
      (forestOfSource signing.settings.marker source).toOption.map (fun nodes =>
        let expansion := signing.runExpansion [] nodes
        (expansion.journal.calls,
          expansion.result.toOption.map fun expanded =>
            Node.actionNamesAll Actions.bareName expanded.1)) =
        some (#[], some ["$x", "$x"]) := by
    decide +kernel
  cases ran : (signing.runWithin [] source).result with
  | error problem =>
      rw [ran] at called
      cases called.1
  | ok document =>
      obtain ⟨nodes, expanded, scope, journal, read, expansion, _⟩ :=
        exists_construction_of_runWithin ran
      rw [read] at told
      simp only [Except.toOption, Option.map_some, expansion, Option.some.injEq,
        Prod.mk.injEq] at told
      exact ⟨nodes, expanded, scope, journal, document, read, expansion, rfl, told.1, called.2,
        told.2⟩

end Interpreter

end WidgetMarkup
