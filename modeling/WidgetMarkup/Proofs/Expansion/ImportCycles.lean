import WidgetMarkup.Proofs.Expansion.ImportChain
import WidgetMarkup.Proofs.Markup.Substitution

namespace WidgetMarkup

open Markup
open Expansion (Task Moment)

/-!
# Templates inside themselves

A run fails for a template that is being expanded already exactly if what is expanded in place of
the template leads back to it. All that is expanded there counts: the nodes of the template itself,
and as much the content that stands in place of its markers.
-/

namespace Expansion.Task

/-- Whether a task is to go on with a script. -/
def IsScript : Task → Prop
  | .script _ _ => True
  | .forest _ _ | .node _ _ => False

/-- The nodes that a task is about to expand. -/
def nodes : Task → List Node
  | .forest nodes _ => nodes
  | .node root _ => [root]
  | .script _ _ => []

end Expansion.Task

namespace Interpreter

variable {interpreter : Interpreter} {earlier later : Moment}

/-- The chain never gets shorter on behalf of a moment. -/
theorem Reaches.imports_subset
    (reaches : interpreter.Reaches earlier later) :
    earlier.progress.imports ⊆ later.progress.imports := by
  induction reaches with
  | refl =>
      exact List.Subset.refl _
  | tail _ last inductionHypothesis =>
      rcases last.imports_or_enters with same | ⟨_, _, _, _, enters⟩
      · exact same ▸ inductionHypothesis
      · rw [enters.imports]
        exact List.Subset.trans inductionHypothesis (List.subset_append_left _ _)

/-- A template that is being expanded at a moment, and was not at an earlier one, was entered
between them. -/
theorem Reaches.exists_enters
    (reaches : interpreter.Reaches earlier later)
    {template : String}
    (entered : template ∈ later.progress.imports) :
    template ∈ earlier.progress.imports ∨
      ∃ marker content nodes entering inside,
        interpreter.Reaches earlier entering ∧ interpreter.Proceeds entering inside ∧
          interpreter.Enters template marker content nodes entering inside ∧
          interpreter.Reaches inside later := by
  induction reaches using Relation.ReflTransGen.head_induction_on with
  | refl =>
      exact .inl entered
  | @head earlier next first rest inductionHypothesis =>
      rcases inductionHypothesis with isNext | ⟨marker, content, nodes, entering, inside, before,
        enters⟩
      · rcases first.imports_or_enters with same | ⟨other, marker, content, nodes, enters⟩
        · exact .inl (same ▸ isNext)
        · rw [enters.imports] at isNext
          rcases List.mem_append.1 isNext with isEarlier | isOther
          · exact .inl isEarlier
          · obtain rfl := List.mem_singleton.1 isOther
            exact .inr ⟨marker, content, nodes, earlier, next, .refl, first, enters, rest⟩
      · exact .inr ⟨marker, content, nodes, entering, inside, .head first before, enters⟩

/-- What leads from nodes to a script leads there through a macro call that stands among them. -/
theorem Reaches.exists_call
    (reaches : interpreter.Reaches earlier later)
    (isScript : later.task.IsScript)
    (noScript : ¬ earlier.task.IsScript) :
    ∃ call scope progress,
      Node.IsWithin earlier.task.nodes call ∧
        interpreter.isMacroCall progress call = true ∧
        interpreter.Reaches earlier ⟨.node call scope, progress⟩ ∧
        interpreter.Reaches ⟨.node call scope, progress⟩ later := by
  induction reaches using Relation.ReflTransGen.head_induction_on with
  | refl =>
      exact absurd isScript noScript
  | @head earlier next first rest inductionHypothesis =>
      cases first with
      | visit charged =>
          obtain ⟨call, scope, progress, isWithin, isCall, before, after⟩ :=
            inductionHypothesis id
          refine ⟨call, scope, progress, ?_, isCall, .head (.visit charged) before, after⟩
          exact isWithin.mono fun root isRoot =>
            List.mem_singleton.1 isRoot ▸ List.mem_cons_self ..
      | others charged visited =>
          obtain ⟨call, scope, progress, isWithin, isCall, before, after⟩ :=
            inductionHypothesis id
          refine ⟨call, scope, progress, ?_, isCall, .head (.others charged visited) before, after⟩
          exact isWithin.mono fun root isRoot => .tail _ isRoot
      | inside isTag prepared =>
          obtain ⟨call, scope, progress, isWithin, isCall, before, after⟩ :=
            inductionHypothesis id
          refine ⟨call, scope, progress, ?_, isCall, .head (.inside isTag prepared) before, after⟩
          exact isWithin.ofChildren (List.mem_singleton_self _)
      | @call node scope progress _ _ _ isCall found shallow prepared =>
          exact ⟨node, scope, progress, .root (List.mem_singleton_self _), isCall, .refl,
            .head (.call isCall found shallow prepared) rest⟩
      | iteration | step | pass | afterPass | insertion | afterInsertion =>
          exact absurd trivial noScript

/--
How an expansion comes back to a template: where the template is expanded, a macro call among the
nodes in its place leads to the attempt to expand it again. The call stands there in a way that
depends on the marker, the content and the nodes of the template itself.
-/
inductive ComesBack
    (interpreter : Interpreter)
    (stands : String → List Node → List Node → Node → Prop)
    (opening again : Moment)
    (template : String) :
    Prop where
  | intro {marker content nodes entering inside call scope progress}
      (reaches : interpreter.Reaches opening entering)
      (proceeds : interpreter.Proceeds entering inside)
      (enters : interpreter.Enters template marker content nodes entering inside)
      (leads : interpreter.Reaches inside ⟨.node call scope, progress⟩)
      (isCall : interpreter.isMacroCall progress call = true)
      (stands : stands marker content nodes call)
      (returns : interpreter.Reaches ⟨.node call scope, progress⟩ again)
      (attempts : ∃ marker content, again.Attempts template marker content)

/-- Whether an expansion comes back to a template by a macro call that is one of the template's own
nodes, whatever content may stand inside the call. -/
def ComesBackByOwnCall (interpreter : Interpreter) : Moment → Moment → String → Prop :=
  interpreter.ComesBack Node.IsOwn

/-- Whether an expansion comes back to a template by a macro call in the content passed to it. -/
def ComesBackByPassedCall (interpreter : Interpreter) : Moment → Moment → String → Prop :=
  interpreter.ComesBack fun _ content _ call => Node.IsWithin content call

variable {opening again : Moment} {template : String}

/-- An expansion that comes back to a template is about to expand it inside itself. -/
theorem ComesBack.repeats
    {stands : String → List Node → List Node → Node → Prop}
    (comesBack : interpreter.ComesBack stands opening again template) :
    interpreter.Reaches opening again ∧ again.Repeats template := by
  obtain ⟨reaches, proceeds, enters, leads, _, _, returns, attempts⟩ := comesBack
  have inside := leads.trans returns
  refine ⟨reaches.trans (.head proceeds inside), attempts, ?_⟩
  refine Reaches.imports_subset inside ?_
  rw [enters.imports]
  exact List.mem_append_right _ (List.mem_singleton_self _)

/-- A template that is about to be expanded inside itself has been come back to, by a macro call of
its own or one in the content. -/
theorem comesBack_of_repeats
    (reaches : interpreter.Reaches opening again)
    (repeats : again.Repeats template)
    (other : template ∉ opening.progress.imports) :
    interpreter.ComesBackByOwnCall opening again template ∨
      interpreter.ComesBackByPassedCall opening again template := by
  obtain ⟨attempts, entered⟩ := repeats
  obtain ⟨marker, content, nodes, entering, inside, before, proceeds, enters, after⟩ :=
    (reaches.exists_enters entered).resolve_left other
  obtain ⟨scope, isForest⟩ := enters.expands
  have isScript : again.task.IsScript := by
    obtain ⟨_, _, rule, scope, next, task⟩ := attempts
    rw [task]
    trivial
  have noScript : ¬ inside.task.IsScript := by
    rw [isForest]
    exact id
  obtain ⟨call, scope, progress, isWithin, isCall, leads, returns⟩ :=
    after.exists_call isScript noScript
  rw [isForest] at isWithin
  rcases Node.IsWithin.of_replaceMarkers marker content isWithin with isOwn | passed
  · exact .inl ⟨before, proceeds, enters, leads, isCall, isOwn, returns, attempts⟩
  · exact .inr ⟨before, proceeds, enters, leads, isCall, passed, returns, attempts⟩

/--
A run fails for a template that is being expanded already exactly if the expansion comes back to a
template where that template is expanded: by a macro call of its own, or by one in the content that
is passed to it.
-/
theorem parse_eq_importCycle_iff
    (interpreter : Interpreter)
    (standard : interpreter.vocabulary = .standard)
    (source : String)
    (problem : LocatedProblem) :
    ((interpreter.parse source).result = .error problem ∧
        ∃ chain, problem.problem = .importCycle chain) ↔
      ∃ opening again template,
        interpreter.Opens (.document source) opening ∧
          problem = again.importCycle template ∧
          (interpreter.ComesBackByOwnCall opening again template ∨
            interpreter.ComesBackByPassedCall opening again template) := by
  constructor
  · rintro ⟨failed, chain, isCycle⟩
    obtain ⟨opening, again, template, opens, reaches, repeats, same⟩ :=
      @exists_repeats_of_answer _ (.document source) _ _ standard failed isCycle
    have other : template ∉ opening.progress.imports := by
      cases opens
      exact List.not_mem_nil
    exact ⟨opening, again, template, opens, same, comesBack_of_repeats reaches repeats other⟩
  · rintro ⟨opening, again, template, opens, rfl, comesBack⟩
    have repeated : interpreter.Reaches opening again ∧ again.Repeats template :=
      comesBack.elim ComesBack.repeats ComesBack.repeats
    obtain ⟨after, failed⟩ := repeated.1.failed (perform_of_repeats repeated.2)
    exact ⟨opens.answer_eq_error failed, _, rfl⟩

/-- A tag around the marker for content, and nothing else. -/
def boxSource : String := "<group><:content/></group>"

/-- An import inside the content of another import of the same template. -/
def nestedSource : String := "<:import path=\"box\"><:import path=\"box\"/></:import>"

/-- The interpreter that knows one template, a box. -/
def boxing : Interpreter where
  vocabulary := .standard
  templates := .ofPairs [("box", boxSource)]

theorem parse_nestedSource :
    ∃ problem,
      (boxing.parse nestedSource).result = .error problem ∧
        problem.problem = .importCycle ["box", "box"] := by
  refine Run.eq_of_importCycle? ?_
  decide +kernel

/-- To the box that is imported inside its own content, the expansion comes back. -/
theorem parse_eq_importCycle_iff_nested :
    ∃ problem opening again template,
      (boxing.parse nestedSource).result = .error problem ∧
        boxing.Opens (.document nestedSource) opening ∧
        problem = again.importCycle template ∧
        (boxing.ComesBackByOwnCall opening again template ∨
          boxing.ComesBackByPassedCall opening again template) := by
  obtain ⟨problem, failed, isCycle⟩ := parse_nestedSource
  obtain ⟨opening, again, template, opens, same, comesBack⟩ :=
    (parse_eq_importCycle_iff boxing rfl nestedSource problem).1 ⟨failed, _, isCycle⟩
  exact ⟨problem, opening, again, template, failed, opens, same, comesBack⟩

/-- Whether a node is the marker for content or an unmarked tag. -/
def isMarkerOrTag (node : Node) : Bool :=
  node.isMarkerNamed StandardMacro.defaultMarker ||
    !node.isMacro && (boxing.vocabulary.tag? node.name).isSome

/-- A template without any macro tag but its marker makes a run fail as if it expanded itself, when
an import of it stands in the content of another one. -/
theorem parse_importCycle_of_passed :
    (∀ template nodes,
      boxing.Loads template nodes →
        ∀ node,
          Node.IsWithin nodes node →
            node.isMarkerNamed StandardMacro.defaultMarker = true ∨
              ∀ progress, boxing.isMacroCall progress node = false) ∧
    ∃ problem,
      (boxing.parse nestedSource).result = .error problem ∧
        problem.problem = .importCycle ["box", "box"] := by
  refine ⟨fun template nodes loads node isWithin => ?_, parse_nestedSource⟩
  obtain ⟨source, found, read⟩ := loads
  have isBox : source = boxSource := by
    change List.lookup template [("box", boxSource)] = some source at found
    rw [List.lookup_cons] at found
    split at found <;> cases found
    rfl
  subst isBox
  have checked :
      (forestOfSource boxing.settings.marker boxSource).toOption.all (fun nodes =>
        nodes.all fun root =>
          isMarkerOrTag root &&
            root.children.all fun child => isMarkerOrTag child && child.children.isEmpty) =
        true := by
    decide +kernel
  rw [read] at checked
  simp only [Except.toOption, Option.all_some, List.all_eq_true, Bool.and_eq_true,
    List.isEmpty_iff] at checked
  have isOne :
      isMarkerOrTag node = true ∧
        ∀ child ∈ node.children, isMarkerOrTag child = true ∧ child.children = [] := by
    induction isWithin with
    | root listed =>
        exact checked _ listed
    | inside _ listed inductionHypothesis =>
        obtain ⟨markerOrTag, childless⟩ := inductionHypothesis.2 _ listed
        exact ⟨markerOrTag, by simp [childless]⟩
  rcases Bool.or_eq_true_iff.1 isOne.1 with isMarker | isTag
  · exact .inl isMarker
  · refine .inr fun progress => ?_
    rw [Bool.and_eq_true, Bool.not_eq_true', Option.isSome_iff_ne_none] at isTag
    simp [isMacroCall, isTag.1, isTag.2]

end Interpreter

end WidgetMarkup
