import WidgetMarkup.Proofs.Markup.Substitution
import WidgetMarkup.Proofs.Vocabulary.StandardRules

namespace WidgetMarkup

open Markup

/-!
# Macros that leave no macros behind

A script could put the nodes of its call in place of the call as they are, with the macro calls
among them. Those of the language put there only what has become of expanded nodes, so they leave no
marked nodes behind if expanding nodes leaves none.
-/

namespace Markup.Node

/-- Whether no node of a forest is marked as a macro, at any depth. -/
def AreUnmarked (nodes : List Node) : Prop :=
  ∀ node, IsWithin nodes node → node.isMacro = false

theorem areUnmarked_nil :
    AreUnmarked [] :=
  fun _ isWithin => absurd isWithin IsWithin.not_nil

theorem AreUnmarked.append
    {first second : List Node}
    (firstUnmarked : AreUnmarked first)
    (secondUnmarked : AreUnmarked second) :
    AreUnmarked (first ++ second) := by
  intro node isWithin
  exact isWithin.of_append.elim (firstUnmarked node) (secondUnmarked node)

/-- A tree is unmarked if its root and all that is inside it are. -/
theorem areUnmarked_singleton
    {root : Node}
    (rootUnmarked : root.isMacro = false)
    (childrenUnmarked : AreUnmarked root.children) :
    AreUnmarked [root] := by
  intro node isWithin
  rcases isWithin.of_singleton with rfl | isInside
  · exact rootUnmarked
  · exact childrenUnmarked node isInside

end Markup.Node

namespace Script

/-- Whether a script gives unmarked nodes only, if nodes become unmarked when it has them
expanded. -/
def GivesUnmarked : Script → Prop
  | .finish nodes _ => Node.AreUnmarked nodes
  | .fail _ => True
  | .charge next => next.GivesUnmarked
  | .expand _ _ next =>
      ∀ nodes scope, Node.AreUnmarked nodes → (next nodes scope).GivesUnmarked
  | .insertTemplate _ _ _ _ next =>
      ∀ nodes, Node.AreUnmarked nodes → (next nodes).GivesUnmarked
  | .interpolate _ _ next => ∀ text, (next text).GivesUnmarked
  | .evaluate _ _ next => ∀ value, (next value).GivesUnmarked
  | .invoke _ next => ∀ answer, (next answer).GivesUnmarked
  | .define _ _ _ next => next.GivesUnmarked
  | .addDefault _ _ next => next.GivesUnmarked
  | .record _ _ next => next.GivesUnmarked

/-- Repeating nodes gives what they have become each time. -/
theorem givesUnmarked_repeatFrom
    (nodes : List Node)
    (scope : Scope)
    (bindings : Nat → List (String × String))
    (remaining index : Nat)
    {expanded : List (List Node)}
    (unmarked : Node.AreUnmarked expanded.reverse.flatten) :
    (repeatFrom nodes scope bindings index expanded remaining).GivesUnmarked := by
  induction remaining generalizing index expanded with
  | zero =>
      exact unmarked
  | succ remaining inductionHypothesis =>
      intro nodes' _ unmarked'
      apply inductionHypothesis
      rw [List.reverse_cons, List.flatten_concat]
      exact unmarked.append unmarked'

/-- Scripts that are put together in the ways of the language put expanded nodes in place. -/
theorem IsStandard.givesUnmarked
    {script : Script}
    (isStandard : script.IsStandard) :
    script.GivesUnmarked := by
  induction isStandard with
  | fail refuses =>
      trivial
  | nothing scope =>
      exact Node.areUnmarked_nil
  | pass nodes scope leave =>
      exact fun _ _ unmarked => unmarked
  | insertion template marker content inside left =>
      exact fun _ unmarked => unmarked
  | repetition nodes scope count bindings =>
      exact givesUnmarked_repeatFrom nodes scope bindings count 0 Node.areUnmarked_nil
  | interpolate _ inductionHypothesis
  | evaluate _ inductionHypothesis
  | invoke _ inductionHypothesis =>
      exact inductionHypothesis
  | define name definition same _ inductionHypothesis =>
      exact inductionHypothesis
  | addDefault tag entry _ inductionHypothesis
  | record level text _ inductionHypothesis =>
      exact inductionHypothesis

end Script

end WidgetMarkup
