import WidgetMarkup.Proofs.Expansion.Order

namespace WidgetMarkup

open Markup
open Expansion (Event Task Outcome)

/-!
# Termination of expansions

An expansion with the macros of the language ends, and its limits say how much it does before: how
deep its macro calls are, and how many nodes it visits and how often it repeats them.
-/

namespace Interpreter

variable {interpreter : Interpreter}

/--
The limits of an expansion: how deep its macro calls are, when one is turned away, and how much is
done. Loops are told by any test that no other macros pass.
-/
structure WithinLimits
    (interpreter : Interpreter)
    (progress : Progress)
    (history : List Event)
    (outcome : Outcome) :
    Prop where
  calls :
    ∀ node active, .call node active ∈ history → active ≤ interpreter.settings.maxDepth
  refusals :
    ∀ node active, .refusal node active ∈ history → interpreter.settings.maxDepth ≤ active
  refused :
    ∀ problem after, outcome = .error problem after → problem.problem.isTooDeep = true →
      ∃ node active, .refusal node active ∈ history
  work :
    ∀ isLoop : MacroRule → Bool, (∀ rule, isLoop rule = true → rule ∈ StandardMacro.loops) →
      history.countP Event.isVisit + history.countP (Event.isPassOf isLoop) ≤
        interpreter.settings.maxExpansions - progress.charged
  passes :
    history.countP (Event.isPassOf fun _ => true) ≤
      history.countP Event.isCall + history.countP Event.isIteration
  iterations :
    history.countP Event.isVisit + history.countP Event.isIteration ≤
      interpreter.settings.maxExpansions - progress.charged

/-- Every history of a document's expansion keeps to the limits. -/
theorem Expands.withinLimits
    {nodes : List Node}
    {scope : Scope}
    {progress : Progress}
    {history : List Event}
    {outcome : Outcome}
    (expands :
      interpreter.Expands progress.depth (.forest nodes scope) progress history outcome)
    (standard : interpreter.vocabulary = .standard)
    (defines : progress.DefinesUserMacros) :
    interpreter.WithinLimits progress history outcome := by
  have spends := expands.spends.limited
  rw [Event.countP_isPaid] at spends
  have everyPass :=
    @Expands.orderly _ _ _ _ _ _ (fun _ => true) 1 expands standard
      (fun _ _ lawful => lawful) 0 trivial defines
  constructor
  case calls =>
    exact fun node active member => expands.isWithin rfl _ member
  case refusals =>
    exact fun node active member => expands.isWithin rfl _ member
  case refused =>
    exact everyPass.refusal
  case passes =>
    have passes := everyPass.passes
    omega
  case iterations =>
    omega
  case work =>
    intro isLoop onlyLoops
    have loops :=
      (@Expands.orderly _ _ _ _ _ _ isLoop 0 expands standard
        (fun rule counted _ => StandardMacro.isLawful_of_mem_loops (onlyLoops rule counted) 0)
        0 trivial defines).passes
    omega

/--
Expansion with the vocabulary of the language ends, whatever macros the document has defined and
whatever templates there are: the engine's outcome has a history, it is the outcome of every
history, and every history keeps to the limits.
-/
theorem expandNodes_ends_withinLimits
    (interpreter : Interpreter)
    (standard : interpreter.vocabulary = .standard)
    (nodes : List Node)
    (scope : Scope)
    (progress : Progress)
    (defines : progress.DefinesUserMacros) :
    (∃ history,
      interpreter.Expands progress.depth (.forest nodes scope) progress history
        (interpreter.expandNodes nodes scope progress)) ∧
    ∀ history outcome,
      interpreter.Expands progress.depth (.forest nodes scope) progress history outcome →
        outcome = interpreter.expandNodes nodes scope progress ∧
          interpreter.WithinLimits progress history outcome := by
  constructor
  · exact interpreter.exists_expands_perform progress.depth (.forest nodes scope) progress
  · intro history outcome expands
    exact ⟨expands.perform_eq.symm, expands.withinLimits standard defines⟩

/-- A macro that calls itself is turned away once two of its calls are going on. -/
theorem expandNodes_ends_withinLimits_again :
    let again : UserMacro := ⟨"content", [], [{ name := "again", isMacro := true }]⟩
    let interpreter : Interpreter := { vocabulary := .standard, settings := { maxDepth := 2 } }
    let progress : Progress :=
      { interpreter.beginning [] with
        macros := ({} : NameTable MacroRule).insert "again" again.toRule }
    let outcome := interpreter.expandNodes again.body .empty progress
    progress.DefinesUserMacros ∧
      (match outcome with
        | .ok _ _ => false
        | .error problem _ => problem.problem.isTooDeep) = true ∧
      ∃ history,
        interpreter.Expands 0 (.forest again.body .empty) progress history outcome ∧
          interpreter.WithinLimits progress history outcome := by
  intro again interpreter progress outcome
  have defines : progress.DefinesUserMacros :=
    (Progress.definesUserMacros_beginning interpreter []).insert "again" again
  have ends := expandNodes_ends_withinLimits interpreter rfl again.body .empty progress defines
  obtain ⟨history, expands⟩ := ends.1
  exact ⟨defines, by decide +kernel, history, expands, (ends.2 history outcome expands).2⟩

end Interpreter

end WidgetMarkup
