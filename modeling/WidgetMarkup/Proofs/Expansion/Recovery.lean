import WidgetMarkup.Proofs.Expansion.Recursion
import WidgetMarkup.Vocabulary.Standard

namespace WidgetMarkup

open Markup
open Expansion (Restored Restores stateAfter)

/-!
# Going on after a failure

An expansion that fails leaves what it has changed on its way in: the macro calls that were going
on, the templates that were being expanded and the path are those of before. So whoever attempts
an expansion can go on when it fails, in a state in which nothing else has been lost.
-/

namespace Expansion

/-- What is attempted is followed by the same steps whether it succeeds or fails. -/
theorem attempt_bind_apply
    {α β : Type}
    (inner : Expansion α)
    (next : Option α → Expansion β)
    (progress : Progress) :
    (attempt inner >>= next) progress =
      match inner progress with
      | .ok value after => next (some value) after
      | .error _ after => next none after := by
  rw [bind_apply, attempt]
  cases inner progress <;> rfl

/-- A state that is restored differs only in what is defined, charged and told to the outside. -/
theorem Restored.eq
    {before after : Progress}
    (restored : Restored before after) :
    after =
      { before with
        macros := after.macros
        styles := after.styles
        charged := after.charged
        journal := after.journal } := by
  obtain ⟨depth, imports, path, _⟩ := restored
  rw [← depth, ← imports, ← path]

end Expansion

namespace Interpreter

/--
Expanding nodes, or a template on behalf of a macro, leaves the depth, the templates that are being
expanded and the path as they were and takes no charge back, whether it succeeds or fails. So what
attempts to expand nodes goes on after their failure in the state of before, but for what was
defined, charged and told to the outside.
-/
theorem expandNodes_restored
    (interpreter : Interpreter)
    (nodes : List Node)
    (scope : Scope)
    (progress : Progress) :
    Restored progress (stateAfter (interpreter.expandNodes nodes scope) progress) ∧
    (∀ template marker content,
      Restored progress
        (stateAfter
          (interpreter.insertTemplate interpreter.expandNodes template marker content scope)
          progress)) ∧
    ∀ (α : Type) (next : Option (List Node × Scope) → Expansion α) problem after,
      interpreter.expandNodes nodes scope progress = .error problem after →
        (Expansion.attempt (interpreter.expandNodes nodes scope) >>= next) progress =
            next none after ∧
          progress.charged ≤ after.charged ∧
          after =
            { progress with
              macros := after.macros
              styles := after.styles
              charged := after.charged
              journal := after.journal } := by
  refine ⟨restores_expandNodes nodes scope progress, fun template marker content => ?template,
    fun α next problem after failed => ?failure⟩
  case template =>
    exact restores_insertTemplate restores_expandNodes template marker content scope progress
  case failure =>
    have restored := (restores_expandNodes nodes scope).of_error failed
    rw [Expansion.attempt_bind_apply, failed]
    exact ⟨rfl, restored.charged, restored.eq⟩

/-- A template that throws inside a tag leaves the templates around it and their depth. -/
theorem expandNodes_restored_thrown :
    let interpreter : Interpreter :=
      { vocabulary := .standard
        templates := .ofPairs [("box", "<group><:throw message=\"no\"/></group>")] }
    let nodes : List Node :=
      [{ name := "import", isMacro := true, attributes := [⟨"path", "box"⟩] }]
    let progress : Progress := { interpreter.beginning ["page"] with depth := 3 }
    ∃ problem after,
      interpreter.expandNodes nodes .empty progress = .error problem after ∧
        after.depth = 3 ∧ after.imports = ["page"] := by
  intro interpreter nodes progress
  have fails :
      (match interpreter.expandNodes nodes .empty progress with
        | .ok _ _ => false
        | .error _ _ => true) = true := by
    decide +kernel
  cases ran : interpreter.expandNodes nodes .empty progress with
  | ok value after =>
      rw [ran] at fails
      cases fails
  | error problem after =>
      have restored :=
        (expandNodes_restored interpreter nodes .empty progress).2.2 Unit (fun _ => pure ())
          problem after ran
      exact ⟨problem, after, rfl, congrArg Progress.depth restored.2.2,
        congrArg Progress.imports restored.2.2⟩

end Interpreter

end WidgetMarkup
