import WidgetMarkup.Proofs.Vocabulary.StandardRules

namespace WidgetMarkup

open Markup

/-!
# Where the nodes that macros give come from

A script could give nodes that it makes up. Those of the language only pass on what they have had
expanded, so that whoever has paid for the expanded nodes has paid for what a macro gives.
-/

namespace Script

/--
Whether a script, having a number of nodes paid for, gives no more nodes than that and what it has
expanded and paid for.
-/
def IsFunded : Nat → Script → Prop
  | paid, .finish nodes _ => Node.sizeAll nodes ≤ paid
  | _, .fail _ => True
  | paid, .charge next => next.IsFunded (paid + 1)
  | paid, .expand _ _ next =>
      ∀ nodes scope, (next nodes scope).IsFunded (paid + Node.sizeAll nodes)
  | paid, .insertTemplate _ _ _ _ next =>
      ∀ nodes, (next nodes).IsFunded (paid + Node.sizeAll nodes)
  | paid, .interpolate _ _ next => ∀ text, (next text).IsFunded paid
  | paid, .evaluate _ _ next => ∀ value, (next value).IsFunded paid
  | paid, .invoke _ next => ∀ answer, (next answer).IsFunded paid
  | paid, .define _ _ _ next => next.IsFunded paid
  | paid, .addDefault _ _ next => next.IsFunded paid
  | paid, .record _ _ next => next.IsFunded paid

/-- Repeating nodes gives what they have become each time. -/
theorem isFunded_repeatFrom
    (nodes : List Node)
    (scope : Scope)
    (bindings : Nat → List (String × String))
    (remaining index : Nat)
    {paid : Nat}
    {expanded : List (List Node)}
    (held : Node.sizeAll expanded.reverse.flatten ≤ paid) :
    (repeatFrom nodes scope bindings index expanded remaining).IsFunded paid := by
  induction remaining generalizing index expanded paid with
  | zero =>
      exact held
  | succ remaining inductionHypothesis =>
      intro nodes' scope'
      apply inductionHypothesis
      rw [List.reverse_cons, List.flatten_concat, Node.sizeAll_append]
      exact Nat.add_le_add_right (Nat.le_succ_of_le held) _

/-- Scripts that are put together in the ways of the language pass on what they have expanded. -/
theorem IsStandard.isFunded
    {script : Script}
    (isStandard : script.IsStandard) :
    script.IsFunded 0 := by
  induction isStandard with
  | fail noHalt =>
      trivial
  | nothing scope =>
      exact Nat.le_refl 0
  | pass nodes scope leave =>
      intro expanded left
      exact Nat.le_add_left _ 0
  | insertion template marker content inside left =>
      intro expanded
      exact Nat.le_add_left _ 0
  | repetition nodes scope count bindings =>
      exact isFunded_repeatFrom nodes scope bindings count 0 (Nat.le_refl 0)
  | interpolate _ inductionHypothesis
  | evaluate _ inductionHypothesis
  | invoke _ inductionHypothesis =>
      exact inductionHypothesis
  | define name definition same _ inductionHypothesis =>
      exact inductionHypothesis
  | addDefault tag entry _ inductionHypothesis
  | record level text _ inductionHypothesis =>
      exact inductionHypothesis

end Script

end WidgetMarkup
