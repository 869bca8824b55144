import WidgetMarkup.Proofs.Expansion.MirroredRuns

namespace WidgetMarkup

open Markup
open Expansion (MirroredResults Outcome Task)
open Node (AreMirrored)

/-!
# Marked and unmarked macros are the same

A tag whose name is that of a macro and of no tag is a macro call whether it is marked or not. Where
such a name means nothing else, neither the end of a branch nor a marker for content, its marks may
be put and left out at will.
-/

/-- Runs that keep in step leave the same state behind, but for marks in the macros that are
defined. -/
theorem Expansion.MirroredResults.exists_eq_adapt
    {variation : Variation}
    {outcome outcome' : Outcome}
    (results : MirroredResults variation Eq outcome outcome')
    (inStep : variation.inStep) :
    ∃ macros, outcome' = outcome.adapt id fun after => { after with macros } := by
  have sameState {after after' : Progress} (between : after.Mirrors variation after') :
      after' = { after with macros := after'.macros } := by
    obtain ⟨macros, styles, depth, charged, imports, path, journal⟩ := after
    obtain ⟨_, styles', imports', _, _, _, depth', charged', path', journal'⟩ := between
    dsimp only at styles' imports' depth' charged' path' journal' ⊢
    rw [styles', imports', depth' inStep, charged' inStep, path' inStep, journal' inStep]
  cases results with
  | ok given between =>
      exact ⟨_, by rw [← given, sameState between]; rfl⟩
  | @error problem problem' _ _ given between =>
      have sameProblem : problem' = problem := by
        obtain ⟨what, path, attributeName⟩ := problem
        obtain ⟨what', attributeName', path'⟩ := given
        dsimp only at what' attributeName' path'
        rw [what', path' inStep, attributeName']
      exact ⟨_, by rw [sameProblem, sameState between]; rfl⟩

namespace Interpreter

variable {interpreter : Interpreter}

/-- Whether a node may come to be expanded when a document goes on: it stands in the nodes that are
left, in a template, or in a macro that is defined by then. -/
inductive IsAtHand (interpreter : Interpreter) (progress : Progress) (nodes : List Node) :
    Node → Prop where
  | document {node}
      (isWithin : Node.IsWithin nodes node) :
      IsAtHand interpreter progress nodes node
  | template {template read node}
      (loads : interpreter.Loads template read)
      (isWithin : Node.IsWithin read node) :
      IsAtHand interpreter progress nodes node
  | body {name node}
      {definition : UserMacro}
      (found : progress.macros.find? name = some definition.toRule)
      (isWithin : Node.IsWithin definition.body node) :
      IsAtHand interpreter progress nodes node

/-- Whether tags of a name are macro calls whether they are marked or not, and nothing else: the
name is that of a macro, and neither of a tag, nor `else`, nor that of a marker for content. -/
structure IsIndifferent
    (interpreter : Interpreter)
    (progress : Progress)
    (nodes : List Node)
    (name : String) :
    Prop where
  isMacro : (interpreter.vocabulary.macroRule? name).isSome = true
  noTag : interpreter.vocabulary.tag? name = none
  noElse : Text.sameName name StandardMacro.elseName = false
  noMarker :
    ∀ node, interpreter.IsAtHand progress nodes node →
      ∀ marker, node.definedMarker? = some marker → Text.sameName name marker = false
  noDefinedMarker :
    ∀ other (definition : UserMacro), progress.macros.find? other = some definition.toRule →
      Text.sameName name definition.marker = false

/--
Marked and unmarked macros are the same. Where forests differ only in the marks of tags whose names
are indifferent to them, they are expanded to the same nodes and leave the same scope, or fail with
the same problem in the same place. Styles, log, calls of actions and work that is charged are the
same either way; only the macros that are defined have the marks in their bodies.
-/
theorem expandNodes_remarked
    (standard : interpreter.vocabulary = .standard)
    {progress : Progress}
    (defines : progress.DefinesUserMacros)
    {nodes nodes' : List Node}
    (remarked : Node.AreRemarkings (interpreter.IsIndifferent progress nodes) nodes nodes')
    (scope : Scope) :
    ∃ macros,
      interpreter.expandNodes nodes' scope progress =
        Outcome.adapt id (fun after => { after with macros })
          (interpreter.expandNodes nodes scope progress) := by
  let variation : Variation := ⟨interpreter.IsIndifferent progress nodes, True⟩
  have spared {forest : List Node}
      (atHand : ∀ node, Node.IsWithin forest node → interpreter.IsAtHand progress nodes node) :
      AreMirrored variation forest forest :=
    ⟨.refl forest, fun node isWithin marker isMarker name indifferent =>
      indifferent.noMarker node (atHand node isWithin) marker isMarker⟩
  have allows : interpreter.Allows variation :=
    { standard
      isMacro := fun _ indifferent => indifferent.isMacro
      noTag := fun _ indifferent => indifferent.noTag
      noElse := fun _ indifferent => indifferent.noElse
      templates := fun _ _ loads => spared fun _ => .template loads }
  have tasks : Task.Mirrors variation (.forest nodes scope) (.forest nodes' scope) :=
    .forest ⟨remarked, (spared fun _ => .document).spared⟩ scope
  have related : progress.Mirrors variation progress :=
    .refl defines fun name definition found =>
      .ofDocument (fun _ indifferent => indifferent.noDefinedMarker name definition found)
        (spared fun _ => .body found)
  exact (mirrored_perform allows tasks related (.inl trivial)).exists_eq_adapt trivial

/-- The expansion of a document is the same for all marks that its nodes are indifferent to, with
the log and the calls of actions. -/
theorem runExpansion_remarked
    (standard : interpreter.vocabulary = .standard)
    (imports : List String)
    {nodes nodes' : List Node}
    (remarked :
      Node.AreRemarkings (interpreter.IsIndifferent (interpreter.beginning imports) nodes) nodes
        nodes') :
    interpreter.runExpansion imports nodes' = interpreter.runExpansion imports nodes := by
  have defines := Progress.definesUserMacros_beginning interpreter imports
  obtain ⟨macros, same⟩ := expandNodes_remarked standard defines remarked .empty
  unfold runExpansion expandDocument
  rw [Expansion.bind_apply, Expansion.bind_apply, same, remarked.length_eq]
  cases interpreter.expandNodes nodes .empty (interpreter.beginning imports) <;> rfl

/-- A macro whose body repeats its content in a loop, which may be marked, and a call of it. -/
def loopInMacro (isMarked : Bool) : List Node :=
  [{ name := "macro"
     isMacro := true
     attributes := [⟨"alias", "row"⟩]
     children :=
      [{ name := "loop"
         isMacro := isMarked
         attributes := [⟨"times", "2"⟩]
         children := [{ name := "content", isMacro := true }] }] },
   { name := "row", isMacro := true, children := [{ name := "label" }] }]

/-- An interpreter without any templates or actions. -/
def untemplated : Interpreter where
  vocabulary := .standard

/-- The name of the loop means nothing but the loop in this document. -/
theorem isIndifferent_loop :
    untemplated.IsIndifferent {} (loopInMacro false) "loop" where
  isMacro := by decide +kernel
  noTag := Option.isNone_iff_eq_none.1 (by decide +kernel)
  noElse := by decide +kernel
  noMarker node atHand marker isMarker := by
    let isSpared (node : Node) : Bool :=
      node.definedMarker?.all fun marker => !Text.sameName "loop" marker
    have roots : (loopInMacro false).all isSpared = true := by
      decide +kernel
    have below : ((loopInMacro false).flatMap Node.children).all isSpared = true := by
      decide +kernel
    have deeper :
        (((loopInMacro false).flatMap Node.children).flatMap Node.children).all isSpared =
          true := by
      decide +kernel
    have spared : isSpared node = true := by
      cases atHand with
      | document isWithin =>
          rcases isWithin.root_or_inside with listed | isWithin
          · exact List.all_eq_true.1 roots node listed
          rcases isWithin.root_or_inside with listed | isWithin
          · exact List.all_eq_true.1 below node listed
          rcases isWithin.root_or_inside with listed | isWithin
          · exact List.all_eq_true.1 deeper node listed
          · exact absurd isWithin Node.IsWithin.not_nil
      | template loads =>
          obtain ⟨_, ⟨⟩, _⟩ := loads
      | body found =>
          cases found
    simpa [isSpared, isMarker] using spared
  noDefinedMarker _ _ found := by
    cases found

/-- Marked or not, the loop makes two labels. -/
theorem expandNodes_remarked_loop :
    ∃ nodes scope after macros,
      untemplated.expandNodes (loopInMacro false) .empty {} = .ok (nodes, scope) after ∧
        untemplated.expandNodes (loopInMacro true) .empty {} =
          .ok (nodes, scope) { after with macros } ∧
        nodes.length = 2 := by
  have remarked :
      Node.AreRemarkings (untemplated.IsIndifferent {} (loopInMacro false)) (loopInMacro false)
        (loopInMacro true) :=
    .cons (.node (.inl rfl) (.cons (.node (.inr isIndifferent_loop) (.refl _)) .nil)) (.refl _)
  have noMacros : Progress.DefinesUserMacros {} :=
    Progress.definesUserMacros_beginning untemplated []
  obtain ⟨macros, same⟩ := @expandNodes_remarked untemplated rfl _ noMacros _ _ remarked .empty
  have made :
      Outcome.seen? (fun value _ => value.1.length)
          (untemplated.expandNodes (loopInMacro false) .empty {}) =
        some 2 := by
    decide +kernel
  obtain ⟨value, after, ran, labels⟩ := Outcome.exists_ok_of_seen made
  rw [ran] at same
  exact ⟨value.1, value.2, after, macros, ran, same, labels⟩

end Interpreter

end WidgetMarkup
