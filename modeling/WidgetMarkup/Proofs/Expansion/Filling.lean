import WidgetMarkup.Proofs.Expansion.Restoring
import WidgetMarkup.Proofs.Expression.Sequences

namespace WidgetMarkup

/-!
# Filling in values only logs

Placeholders, expressions and the actions they run change nothing but the journal, and their
failures never halt the engine.
-/

namespace Expression

open Expansion (OnlyLogs)

theorem isSequential_onlyLogs :
    @IsSequential Expansion _ fun α (first _ : Expansion α) => OnlyLogs first where
  pure value := .pure value
  bind firstLogs nextLogs := firstLogs.bind nextLogs

/-- Evaluating an expression only logs if looking up names does. -/
theorem onlyLogs_evaluate
    {resolve : String → Expansion (Option String)}
    (resolveLogs : ∀ name, OnlyLogs (resolve name))
    (source : String) :
    OnlyLogs (evaluate resolve source).run :=
  isSequential_onlyLogs.evaluate resolve resolve resolveLogs source

end Expression

open Expansion (OnlyLogs)

/-- Writing lines of the log never fails. -/
theorem Logged.exists_forM_record
    (lines : List LogRecord)
    (journal : Journal) :
    ∃ after,
      (lines.forM fun line => Logged.record line.level line.text) journal = .ok () after := by
  induction lines generalizing journal with
  | nil =>
      exact ⟨journal, rfl⟩
  | cons line rest inductionHypothesis =>
      exact inductionHypothesis (journal.record line.level line.text)

/-- Running an action without a widget fails only if there is no such action. -/
theorem Actions.invoke_error
    {actions : Actions}
    {reference : String}
    {journal after : Journal}
    {problem : Problem}
    (failed : actions.invoke reference journal = .error problem after) :
    problem = .unknownAction (bareName reference) := by
  cases found : actions.find? (bareName reference) with
  | none =>
      simp only [invoke, start, found, bind, EStateM.bind] at failed
      cases failed
      rfl
  | some action =>
      obtain ⟨logged, ran⟩ :=
        Logged.exists_forM_record (action.records none)
          ((journal.record .trace ("invoking action `" ++ bareName reference ++ "`")).note
            (bareName reference) none)
      have succeeded : actions.invoke reference journal = .ok action.alone logged := by
        have changed (change : Journal → Journal) (before : Journal) :
            (modify change : Logged PUnit) before = .ok ⟨⟩ (change before) :=
          rfl
        simp only [invoke, start, found, bind, EStateM.bind, Logged.record, changed,
          Option.map_none] at ran ⊢
        rw [ran]
        rfl
      rw [succeeded] at failed
      cases failed

namespace Interpreter

variable (interpreter : Interpreter) (scope : Scope)

/-- Evaluating an expression only logs if filling in placeholders does. -/
theorem onlyLogs_evaluateWith
    {placeholder : String → Expansion (Option String)}
    (placeholderLogs : ∀ name, OnlyLogs (placeholder name))
    (source : String) :
    OnlyLogs (interpreter.evaluateWith scope placeholder source) := by
  refine (Expression.onlyLogs_evaluate (fun name => ?_) source).bind fun outcome => ?_
  · split
    · exact placeholderLogs name
    · exact .pure _
  · cases outcome with
    | ok value =>
        exact .pure value
    | error error =>
        exact .fail rfl

theorem onlyLogs_invoke
    (reference : String) :
    OnlyLogs (Expansion.logged id (interpreter.actions.invoke reference)) := by
  refine .logged fun journal problem after failed => ?_
  rw [Actions.invoke_error failed]
  rfl

theorem onlyLogs_fillIn
    (segment : Segment) :
    OnlyLogs (interpreter.fillIn scope segment) := by
  match segment with
  | .literal text =>
      exact .pure text
  | .variable name =>
      rw [fillIn]
      split
      · exact .pure _
      · exact .fail rfl
  | .translation key =>
      rw [fillIn]
      split
      · exact .pure _
      · exact .fail rfl
  | .action reference =>
      refine OnlyLogs.bind (.logged fun journal problem after failed => ?_) fun answer => .pure _
      rw [Actions.invoke_error failed]
      rfl
  | .expression source =>
      exact (interpreter.onlyLogs_evaluateWith scope (fun _ => .pure none) source).bind
        fun value => .pure _

theorem onlyLogs_fillInAll
    (segments : List Segment) :
    OnlyLogs (interpreter.fillInAll scope segments) := by
  induction segments with
  | nil =>
      exact .pure ""
  | cons segment rest inductionHypothesis =>
      exact (interpreter.onlyLogs_fillIn scope segment).bind fun first =>
        inductionHypothesis.bind fun others => .pure _

/-- A value whose pieces cannot be read does not halt the engine. -/
theorem noHalt_of_readFrom
    {reversed characters : List Char}
    {problem : Problem}
    (failed : Segment.readFrom reversed characters = .error problem) :
    problem.isHalt = false := by
  fun_induction Segment.readFrom reversed characters with
  | case1 | case5 =>
      cases failed
  | case2 _ _ _ _ inductionHypothesis | case7 _ _ _ _ _ inductionHypothesis =>
      exact inductionHypothesis failed
  | case3 | case4 =>
      cases failed
      rfl
  | case6 =>
      rename_i failedRest _ inductionHypothesis
      cases failed
      exact inductionHypothesis failedRest

/-- Filling in a value only logs. -/
theorem onlyLogs_interpolate
    (raw : String) :
    OnlyLogs (interpreter.interpolate scope raw) := by
  unfold interpolate
  split
  · split
    · exact interpreter.onlyLogs_fillInAll scope _
    · rename_i failed
      exact .fail (noHalt_of_readFrom failed)
  · exact .pure raw

/-- Evaluating an expression only logs. -/
theorem onlyLogs_evaluate
    (source : String) :
    OnlyLogs (interpreter.evaluate scope source) :=
  interpreter.onlyLogs_evaluateWith scope
    (fun placeholder => (interpreter.onlyLogs_interpolate scope placeholder).attempt) source

theorem onlyLogs_interpolateAttributes
    (attributes : List Markup.Attribute) :
    OnlyLogs (interpreter.interpolateAttributes scope attributes) := by
  induction attributes with
  | nil =>
      exact .pure []
  | cons entry rest inductionHypothesis =>
      exact ((interpreter.onlyLogs_interpolate scope entry.value).onAttribute entry.name).bind
        fun value => inductionHypothesis.bind fun others => .pure _

end Interpreter

end WidgetMarkup
