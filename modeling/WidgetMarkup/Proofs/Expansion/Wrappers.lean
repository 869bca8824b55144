import WidgetMarkup.Proofs.Expansion.MirroredRuns
import WidgetMarkup.Proofs.Expression.Identifiers

namespace WidgetMarkup

open Markup
open Expansion (MirroredResults Outcome Task bind_apply)
open Node (AreMirrored)

/-!
# Macro calls that can be left out

Calls of `replace` and conditions that hold come to what is inside of them. That is expanded on a
longer path and one level deeper, with a little less left to spend, but no macro can tell. So
nothing is lost if the calls are left out, unless a document has given another meaning to their
names.
-/

namespace Markup.Node

/-- Whether a node is a macro call that comes to what is inside of it: one of `replace`, by any name
and without attributes, or a condition that is `true`, all of it being the first branch. -/
inductive IsWrapper : Node → Prop where
  | replacement
      {name text : String}
      {inside : List Node}
      {position : Position}
      (named : Declaration.lists ["replace", "replaceArguments", "noOp", "root"] name = true) :
      IsWrapper ⟨name, true, [], inside, text, position⟩
  | condition
      {name text : String}
      {inside : List Node}
      {position : Position}
      (named : Declaration.lists ["if", "test", "check"] name = true)
      (noElse : ∀ node ∈ inside, node.isMarkerNamed StandardMacro.elseName = false) :
      IsWrapper ⟨name, true, [⟨"test", "true"⟩], inside, text, position⟩

theorem IsWrapper.isMacro
    {wrapper : Node}
    (isWrapper : wrapper.IsWrapper) :
    wrapper.isMacro = true := by
  cases isWrapper <;> rfl

end Markup.Node

/-- Nodes without `else` are all of the first branch. -/
theorem StandardMacro.splitAtElse_of_noElse
    {nodes : List Node}
    (noElse : ∀ node ∈ nodes, node.isMarkerNamed elseName = false) :
    splitAtElse nodes = (nodes, []) := by
  induction nodes with
  | nil =>
      rfl
  | cons node rest inductionHypothesis =>
      rw [List.forall_mem_cons] at noElse
      rw [splitAtElse, noElse.1, inductionHypothesis noElse.2]
      rfl

/-- Whether two states agree in all that a document brings about: macros, styles and calls of
actions. -/
structure Progress.SameEffects (progress progress' : Progress) : Prop where
  macros : ∀ name, progress.macros.find? name = progress'.macros.find? name
  styles : progress.styles = progress'.styles
  calls : progress.journal.SameCalls progress'.journal

/-- Whether two problems are the same, wherever they are. -/
structure LocatedProblem.SameProblem (first second : LocatedProblem) : Prop where
  problem : first.problem = second.problem
  attributeName : first.attributeName = second.attributeName

namespace Expansion

/-- Whether two outcomes are the same nodes and scope, or the same problem wherever it is, with the
same effects before that. -/
abbrev Outcome.Agrees : Outcome → Outcome → Prop :=
  ParallelResults LocatedProblem.SameProblem Progress.SameEffects Eq

theorem Outcome.Agrees.refl
    (outcome : Outcome) :
    outcome.Agrees outcome := by
  cases outcome with
  | ok value after =>
      exact .ok rfl ⟨fun _ => rfl, rfl, rfl⟩
  | error problem after =>
      exact .error ⟨rfl, rfl⟩ ⟨fun _ => rfl, rfl, rfl⟩

end Expansion

/-- What runs differ in that come to the same in different ways: the places where they are and what
they have spent. -/
def Variation.ofPlaces : Variation :=
  ⟨fun _ => False, False⟩

theorem Markup.Node.AreMirrored.ofPlaces
    (nodes : List Node) :
    AreMirrored .ofPlaces nodes nodes :=
  .refl (fun _ => id) nodes

theorem Progress.Mirrors.ofPlaces
    {progress : Progress}
    (defines : progress.DefinesUserMacros) :
    progress.Mirrors .ofPlaces progress :=
  .refl defines fun _ definition _ => .ofDocument (fun _ => False.elim) (.ofPlaces definition.body)

theorem Progress.Mirrors.sameEffects
    {progress progress' : Progress}
    (related : progress.Mirrors .ofPlaces progress') :
    progress.SameEffects progress' where
  macros name := by
    have rules := related.macros name
    generalize progress.macros.find? name = own, progress'.macros.find? name = own' at rules
    cases rules with
    | none =>
        rfl
    | some defined =>
        cases defined with
        | ofDocument _ bodies =>
            rw [bodies.remarked.eq fun _ => id]
  styles := related.styles
  calls := related.calls

theorem Expansion.MirroredResults.agrees
    {outcome outcome' : Outcome}
    (results : MirroredResults .ofPlaces Eq outcome outcome') :
    outcome.Agrees outcome' := by
  cases results with
  | ok given between =>
      exact .ok given between.sameEffects
  | error given between =>
      exact .error ⟨given.problem, given.attributeName⟩ between.sameEffects

namespace Interpreter

variable {interpreter : Interpreter}

theorem allows_ofPlaces
    (standard : interpreter.vocabulary = .standard) :
    interpreter.Allows .ofPlaces where
  standard := standard
  isMacro _ := False.elim
  noTag _ := False.elim
  noElse _ := False.elim
  templates _ nodes _ := .ofPlaces nodes

theorem evaluate_true
    (scope : Scope)
    (progress : Progress) :
    interpreter.evaluate scope "true" progress = .ok (.boolean true) progress := by
  unfold evaluate evaluateWith Expression.evaluate
  rw [Expression.readTokens_of_isIdentifier (by decide +kernel)]
  rfl

/-- Whether a call that a macro is found for is prepared as it is written, and comes to what is
inside. -/
structure StandsForContent
    (interpreter : Interpreter)
    (rule : MacroRule)
    (wrapper : Node) :
    Prop where
  prepared :
    ∀ scope path progress,
      interpreter.prepareCall rule wrapper scope path progress =
        .ok ⟨wrapper.name, wrapper.attributes, wrapper.children, wrapper.text, path⟩
          { progress with
            journal :=
              progress.journal.record .debug ("expanding macro at " ++ path.render) }
  carriedOut :
    ∀ scope path,
      interpreter.runScript interpreter.expandNodes
          (rule.script interpreter.sources
            ⟨wrapper.name, wrapper.attributes, wrapper.children, wrapper.text, path⟩ scope) =
        interpreter.expandNodes wrapper.children scope

theorem exists_rule_of_isWrapper
    (interpreter : Interpreter)
    {wrapper : Node}
    (isWrapper : wrapper.IsWrapper) :
    ∃ rule,
      Vocabulary.standard.macroRule? wrapper.name = some rule ∧
        interpreter.StandsForContent rule wrapper := by
  cases isWrapper with
  | replacement named =>
      refine ⟨StandardMacro.children, ?_, ⟨fun _ _ _ => rfl, fun scope path => ?_⟩⟩
      · exact Vocabulary.macroRule?_standard_of_mem
          (by simp [StandardMacro.all] : (_, StandardMacro.children) ∈ StandardMacro.all) named
      · exact bind_pure _
  | condition named noElse =>
      refine ⟨StandardMacro.condition, ?_, ⟨fun _ _ _ => rfl, fun scope path => ?_⟩⟩
      · exact Vocabulary.macroRule?_standard_of_mem
          (by simp [StandardMacro.all] : (_, StandardMacro.condition) ∈ StandardMacro.all) named
      · have tested : Attribute.lookup? "test" [⟨"test", "true"⟩] = some "true" := by
          decide +kernel
        funext progress
        simp only [StandardMacro.condition, StandardMacro.attributeOrFirst?, MacroCall.attribute?,
          tested, StandardMacro.splitAtElse_of_noElse noElse]
        rw [runScript, bind_apply, evaluate_true]
        exact congrFun (bind_pure (interpreter.expandNodes _ scope)) progress

/-- A wrapper expands what is inside, on its own path and one level deeper. -/
theorem expandNode_of_isWrapper
    (standard : interpreter.vocabulary = .standard)
    {wrapper : Node}
    (isWrapper : wrapper.IsWrapper)
    {progress : Progress}
    (unshadowed : progress.macros.find? wrapper.name = none)
    (scope : Scope) :
    interpreter.expandNode wrapper scope progress =
      let path := interpreter.macroPath progress.path wrapper.name
      if progress.depth < interpreter.settings.maxDepth then
        Outcome.adapt id
          (fun after => { after with depth := after.depth - 1, path := progress.path })
          (interpreter.expandNodes wrapper.children scope
            { progress with
              path
              depth := progress.depth + 1
              journal :=
                progress.journal.record .debug ("expanding macro at " ++ path.render) })
      else
        .error ((Problem.tooDeep interpreter.settings.maxDepth).located path) progress := by
  obtain ⟨rule, known, stands⟩ := interpreter.exists_rule_of_isWrapper isWrapper
  have isCall : interpreter.isMacroCall progress wrapper = true := by
    rw [isMacroCall, isWrapper.isMacro, Bool.true_or]
  have found : interpreter.findMacro? progress wrapper.name = some rule := by
    rw [findMacro?, unshadowed, standard, known]
  dsimp only
  split
  · rename_i shallow
    obtain ⟨_, body⟩ := interpreter.exists_expands_perform 1 (.script rule _) _
    have called := (Expands.called isCall found shallow (stands.prepared scope _ _) body).perform_eq
    rwa [perform, perform, stands.carriedOut] at called
  · rename_i deep
    exact (@Expands.refused _ 0 _ scope _ _ isCall found (Nat.le_of_not_lt deep)).perform_eq

theorem expandNodes_singleton
    (node : Node)
    (scope : Scope) :
    interpreter.expandNodes [node] scope =
      interpreter.charge >>= fun _ => interpreter.expandNode node scope := by
  simp only [expandNodes_cons, expandNodes_nil, pure_bind, List.append_nil, Prod.mk.eta, bind_pure]

/-- Nodes after others are not expanded if these fail. -/
theorem expandNodes_append_of_error
    {earlier : List Node}
    {scope : Scope}
    {progress after : Progress}
    {problem : LocatedProblem}
    (ran : interpreter.expandNodes earlier scope progress = .error problem after)
    (later : List Node) :
    interpreter.expandNodes (earlier ++ later) scope progress = .error problem after := by
  rw [expandNodes_append, bind_apply, ran]

/-- Nodes after others are expanded in the scope that these leave. -/
theorem expandNodes_append_of_ok
    {earlier expanded : List Node}
    {scope left : Scope}
    {progress between : Progress}
    (ran : interpreter.expandNodes earlier scope progress = .ok (expanded, left) between)
    (later : List Node) :
    interpreter.expandNodes (earlier ++ later) scope progress =
      Outcome.adapt (fun others => (expanded ++ others.1, others.2)) id
        (interpreter.expandNodes later left between) := by
  rw [expandNodes_append, bind_apply, ran]
  dsimp only
  rw [bind_apply]
  cases interpreter.expandNodes later left between <;> rfl

/-- Where the first of some nodes stop at a limit, so do all. -/
theorem isLimit_append
    {earlier later : List Node}
    {scope : Scope}
    {progress : Progress}
    (isLimit : Outcome.IsLimit (interpreter.expandNodes earlier scope progress)) :
    Outcome.IsLimit (interpreter.expandNodes (earlier ++ later) scope progress) := by
  cases ran : interpreter.expandNodes earlier scope progress with
  | ok value between =>
      rw [ran] at isLimit
      exact isLimit.elim
  | error problem after =>
      rwa [expandNodes_append_of_error ran, ← ran]

theorem definesUserMacros_of_expandNodes
    (standard : interpreter.vocabulary = .standard)
    {nodes : List Node}
    {scope : Scope}
    {progress after : Progress}
    {value : List Node × Scope}
    (defines : progress.DefinesUserMacros)
    (ran : interpreter.expandNodes nodes scope progress = .ok value after) :
    after.DefinesUserMacros := by
  obtain ⟨_, expands⟩ := interpreter.exists_expands_perform 0 (.forest nodes scope) progress
  rw [perform, ran] at expands
  exact expands.definesUserMacros standard 0 trivial defines

/-- What is expanded one level deeper, where more is spent and on another path, comes to the same,
unless it stops at a limit. -/
theorem mirrored_inside
    (standard : interpreter.vocabulary = .standard)
    {nodes : List Node}
    {scope : Scope}
    {progress deeper : Progress}
    (related : deeper.Mirrors .ofPlaces progress)
    (isDeeper : deeper.depth = progress.depth + 1)
    (noLimit : ¬Outcome.IsLimit (interpreter.expandNodes nodes scope deeper))
    (path : TagPath) :
    MirroredResults .ofPlaces Eq
      (Outcome.adapt id (fun after => { after with depth := after.depth - 1, path })
        (interpreter.expandNodes nodes scope deeper))
      (interpreter.expandNodes nodes scope progress) := by
  have results : MirroredResults .ofPlaces Eq (interpreter.expandNodes nodes scope deeper)
      (interpreter.expandNodes nodes scope progress) :=
    mirrored_perform (allows_ofPlaces standard) (.forest (.ofPlaces nodes) scope) related
      (.inr noLimit)
  have restores (progress : Progress) :
      (Expansion.stateAfter (interpreter.expandNodes nodes scope) progress).depth =
        progress.depth :=
    (restores_expandNodes nodes scope progress).depth
  have below := restores deeper
  have beside := restores progress
  unfold Expansion.stateAfter at below beside
  have returned {after after' : Progress}
      (between : after.Mirrors .ofPlaces after')
      (below : after.depth = deeper.depth)
      (beside : after'.depth = progress.depth) :
      { after with depth := after.depth - 1, path }.Mirrors .ofPlaces after' :=
    { between with
      calls := between.calls
      depth := by simp only [below, beside, isDeeper]; exact Nat.le_refl _
      sameDepth := False.elim
      samePath := False.elim }
  generalize interpreter.expandNodes nodes scope deeper = outcome,
    interpreter.expandNodes nodes scope progress = outcome' at results below beside
  cases results with
  | ok given between =>
      exact .ok given (returned between below beside)
  | error given between =>
      exact .error given (returned between below beside)

/-- A wrapper comes to what is inside, unless it stops at a limit. -/
theorem mirrored_of_isWrapper
    (standard : interpreter.vocabulary = .standard)
    {wrapper : Node}
    (isWrapper : wrapper.IsWrapper)
    {progress : Progress}
    (defines : progress.DefinesUserMacros)
    (unshadowed : progress.macros.find? wrapper.name = none)
    {scope : Scope}
    (noLimit : ¬Outcome.IsLimit (interpreter.expandNodes [wrapper] scope progress)) :
    MirroredResults .ofPlaces Eq (interpreter.expandNodes [wrapper] scope progress)
      (interpreter.expandNodes wrapper.children scope progress) := by
  rw [expandNodes_singleton, bind_apply] at noLimit ⊢
  cases charged : interpreter.charge progress with
  | error problem after =>
      rw [charged] at noLimit
      exact absurd (congrArg Problem.isLimit (charge_eq_error charged)) noLimit
  | ok _ paid =>
      obtain ⟨_, rfl⟩ := charge_eq_ok charged
      have entered := @expandNode_of_isWrapper _ standard _ isWrapper
        { progress with charged := progress.charged + 1 } unshadowed scope
      rw [charged] at noLimit
      dsimp only at noLimit entered ⊢
      rw [entered] at noLimit ⊢
      split at noLimit
      · rename_i shallow
        rw [if_pos shallow]
        have same := Progress.Mirrors.ofPlaces defines
        refine mirrored_inside standard ?_ rfl
          (fun isLimit => noLimit (Outcome.isLimit_adapt.2 isLimit)) progress.path
        exact
          { same with
            calls := rfl
            depth := Nat.le_succ _
            charged := Nat.le_succ _
            sameDepth := False.elim
            sameCharged := False.elim
            samePath := False.elim
            sameLog := False.elim }
      · exact absurd rfl noLimit

/-- What comes after a wrapper is the same after what is inside of it. -/
theorem mirrored_append
    (standard : interpreter.vocabulary = .standard)
    {first first' : List Node}
    {scope : Scope}
    {progress : Progress}
    (results :
      MirroredResults .ofPlaces Eq (interpreter.expandNodes first scope progress)
        (interpreter.expandNodes first' scope progress))
    {later : List Node}
    (noLimit : ¬Outcome.IsLimit (interpreter.expandNodes (first ++ later) scope progress)) :
    MirroredResults .ofPlaces Eq (interpreter.expandNodes (first ++ later) scope progress)
      (interpreter.expandNodes (first' ++ later) scope progress) := by
  cases ran : interpreter.expandNodes first scope progress with
  | error problem after =>
      rw [ran] at results
      generalize ran' : interpreter.expandNodes first' scope progress = result' at results
      cases results with
      | error given between =>
          rw [expandNodes_append_of_error ran, expandNodes_append_of_error ran']
          exact .error given between
  | ok value after =>
      rw [ran] at results
      generalize ran' : interpreter.expandNodes first' scope progress = result' at results
      cases results with
      | ok given between =>
          cases given
          rw [expandNodes_append_of_ok ran] at noLimit ⊢
          rw [expandNodes_append_of_ok ran']
          have others := mirrored_perform (allows_ofPlaces standard)
            (.forest (.ofPlaces later) value.2) between
            (.inr fun isLimit => noLimit (Outcome.isLimit_adapt.2 isLimit))
          exact others.adapt _ fun _ _ => id

/--
Wrappers are transparent. Nodes with a wrapper among them come to what they come to if its content
stands in its place: the same nodes and scope, or the same problem, and the same effects on macros,
styles and actions, unless they stop at a limit. What is bound inside of the wrapper reaches the
nodes after it. But the name of the wrapper must not be that of a macro that the document has
defined.
-/
theorem expandNodes_unwrapped
    (standard : interpreter.vocabulary = .standard)
    {progress : Progress}
    (defines : progress.DefinesUserMacros)
    {wrapper : Node}
    (isWrapper : wrapper.IsWrapper)
    (before after : List Node)
    (scope : Scope)
    (unshadowed :
      ∀ expanded left between,
        interpreter.expandNodes before scope progress = .ok (expanded, left) between →
          between.macros.find? wrapper.name = none)
    (noLimit :
      ¬Outcome.IsLimit (interpreter.expandNodes (before ++ wrapper :: after) scope progress)) :
    Outcome.Agrees
        (interpreter.expandNodes (before ++ wrapper :: after) scope progress)
        (interpreter.expandNodes (before ++ wrapper.children ++ after) scope progress) ∧
      ∀ nodes bound between,
        interpreter.expandNodes (before ++ wrapper.children) scope progress =
            .ok (nodes, bound) between →
          ∃ between',
            interpreter.expandNodes (before ++ [wrapper]) scope progress =
                .ok (nodes, bound) between' ∧
              interpreter.expandNodes (before ++ wrapper :: after) scope progress =
                Outcome.adapt (fun others => (nodes ++ others.1, others.2)) id
                  (interpreter.expandNodes after bound between') ∧
              interpreter.expandNodes (before ++ wrapper.children ++ after) scope progress =
                Outcome.adapt (fun others => (nodes ++ others.1, others.2)) id
                  (interpreter.expandNodes after bound between) := by
  have agrees (after : List Node)
      (noLimit :
        ¬Outcome.IsLimit (interpreter.expandNodes (before ++ wrapper :: after) scope progress)) :
      Outcome.Agrees
        (interpreter.expandNodes (before ++ wrapper :: after) scope progress)
        (interpreter.expandNodes (before ++ wrapper.children ++ after) scope progress) := by
    rw [List.append_assoc]
    cases ran : interpreter.expandNodes before scope progress with
    | error problem failed =>
        rw [expandNodes_append_of_error ran, expandNodes_append_of_error ran]
        exact .refl _
    | ok value between =>
        rw [expandNodes_append_of_ok ran] at noLimit ⊢
        rw [expandNodes_append_of_ok ran]
        have noLimit :
            ¬Outcome.IsLimit (interpreter.expandNodes ([wrapper] ++ after) value.2 between) :=
          fun isLimit => noLimit (Outcome.isLimit_adapt.2 isLimit)
        have defines := definesUserMacros_of_expandNodes standard defines ran
        have content := mirrored_of_isWrapper standard isWrapper defines (unshadowed _ _ _ ran)
          fun isLimit => noLimit (isLimit_append isLimit)
        exact ((mirrored_append standard content noLimit).adapt _ fun _ _ => id).agrees
  refine ⟨agrees after noLimit, fun nodes bound between ran => ?_⟩
  have appended := List.append_cons before wrapper after
  have same := agrees [] fun isLimit => noLimit (appended ▸ isLimit_append isLimit)
  rw [List.append_nil, ran] at same
  generalize wrapped : interpreter.expandNodes (before ++ [wrapper]) scope progress = result at same
  cases same with
  | ok given _ =>
      cases given
      refine ⟨_, rfl, ?_, expandNodes_append_of_ok ran after⟩
      rw [appended]
      exact expandNodes_append_of_ok wrapped after

/-- A condition that holds, in which a name is bound. -/
def holdingBinding : Node where
  name := "if"
  isMacro := true
  attributes := [⟨"test", "true"⟩]
  children := [{ name := "assign", isMacro := true, attributes := [⟨"x", "1"⟩] }]

/-- A tag with the value of a name for its id. -/
def labelOfBinding : Node where
  name := "label"
  attributes := [⟨"id", "\x7bx\x7d"⟩]

/-- What is bound inside of the condition is filled in after it, as it is without the condition. -/
theorem expandNodes_unwrapped_binding :
    let interpreter : Interpreter := { vocabulary := .standard }
    let before : List Node := [{ name := "group" }]
    ∃ nodes scope after after',
      interpreter.expandNodes (before ++ holdingBinding :: [labelOfBinding]) .empty {} =
          .ok (nodes, scope) after ∧
        interpreter.expandNodes (before ++ holdingBinding.children ++ [labelOfBinding]) .empty {} =
            .ok (nodes, scope) after' ∧
          after.SameEffects after' ∧ nodes.map Node.attributes = [[], [⟨"id", "1"⟩]] := by
  intro interpreter before
  have isWrapper : holdingBinding.IsWrapper :=
    .condition (by decide +kernel) (by decide +kernel)
  have unshadowed :
      Outcome.seen? (fun _ between => (between.macros.find? holdingBinding.name).isNone)
          (interpreter.expandNodes before .empty {}) =
        some true := by
    decide +kernel
  have filledIn :
      Outcome.seen? (fun value _ => value.1.map Node.attributes)
          (interpreter.expandNodes (before ++ holdingBinding :: [labelOfBinding]) .empty {}) =
        some [[], [⟨"id", "1"⟩]] := by
    decide +kernel
  have transparent := @expandNodes_unwrapped interpreter rfl {}
    (Progress.definesUserMacros_beginning interpreter []) _ isWrapper before [labelOfBinding] .empty
    (fun expanded left between ran => by
      rw [ran] at unshadowed
      exact Option.isNone_iff_eq_none.1 (Option.some.inj unshadowed))
  obtain ⟨⟨nodes, scope⟩, after, ran, attributes⟩ := Outcome.exists_ok_of_seen filledIn
  rw [ran] at transparent ⊢
  have agrees := (transparent id).1
  generalize
    interpreter.expandNodes (before ++ holdingBinding.children ++ [labelOfBinding]) .empty {} =
      unwrapped at agrees ⊢
  cases agrees with
  | ok given effects =>
      cases given
      exact ⟨_, _, _, _, rfl, rfl, effects, attributes⟩

/-- The definition of a macro without a body under the name `replace`. -/
def shadowingReplace : Node where
  name := "macro"
  isMacro := true
  attributes := [⟨"alias", "replace"⟩]

/-- A call of `replace` without attributes that holds a label. -/
def replaceAroundLabel : Node where
  name := "replace"
  isMacro := true
  children := [{ name := "label" }]

/-- Behind a definition of its name, `replace` comes to what the document says, which is nothing,
and the label inside is lost. -/
theorem not_agrees_shadowed_replace :
    let interpreter : Interpreter := { vocabulary := .standard }
    replaceAroundLabel.IsWrapper ∧
      ¬Outcome.IsLimit
          (interpreter.expandNodes [shadowingReplace, replaceAroundLabel] .empty {}) ∧
        ¬Outcome.Agrees
          (interpreter.expandNodes [shadowingReplace, replaceAroundLabel] .empty {})
          (interpreter.expandNodes ([shadowingReplace] ++ replaceAroundLabel.children) .empty
            {}) := by
  intro interpreter
  have lost :
      Outcome.seen? (fun value _ => value.1.length)
          (interpreter.expandNodes [shadowingReplace, replaceAroundLabel] .empty {}) =
        some 0 := by
    decide +kernel
  have kept :
      Outcome.seen? (fun value _ => value.1.length)
          (interpreter.expandNodes ([shadowingReplace] ++ replaceAroundLabel.children) .empty
            {}) =
        some 1 := by
    decide +kernel
  obtain ⟨value, after, ran, noNodes⟩ := Outcome.exists_ok_of_seen lost
  obtain ⟨value', after', ran', oneNode⟩ := Outcome.exists_ok_of_seen kept
  rw [ran, ran']
  refine ⟨.replacement (by decide +kernel), id, fun agrees => ?_⟩
  cases agrees with
  | ok same _ =>
      rw [same, oneNode] at noNodes
      cases noNodes

end Interpreter

end WidgetMarkup
