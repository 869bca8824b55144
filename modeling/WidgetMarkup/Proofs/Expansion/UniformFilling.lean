import WidgetMarkup.Proofs.Construction.Parallel
import WidgetMarkup.Proofs.Expression.Sequences

namespace WidgetMarkup

open Markup

/-!
# Filling in values is uniform

What is filled in depends on the scope and on the actions, and on nothing that the expansion keeps:
neither on where it is and what it has spent, nor on the macros that are defined by then. So two
expansions that fill in the same value get the same text or meet the same problem, each at its own
path, and nothing but their journals changes.
-/

/-- Whether two problems are the same, each at a path of its own. -/
structure LocatedProblem.SameAt
    (path path' : TagPath)
    (first second : LocatedProblem) :
    Prop where
  problem : first.problem = second.problem
  attributeName : first.attributeName = second.attributeName
  firstPath : first.path = path
  secondPath : second.path = path'

namespace Expansion

/-- Whether two states have been made of two others by changing their journals, which still hold the
same calls, and if they have to, the same log. -/
structure OnlyJournals
    (sameLog : Prop)
    (progress progress' after after' : Progress) :
    Prop where
  changed : ∃ journal, after = { progress with journal }
  changed' : ∃ journal, after' = { progress' with journal }
  calls : after.journal.SameCalls after'.journal
  sameLog : sameLog → after.journal = after'.journal

/-- Whether a part of an expansion does the same in all states: it gives the same value or problem,
the latter where it is, and changes nothing but the journal. -/
def IsUniform {α : Type} (inner : Expansion α) : Prop :=
  ∀ sameLog progress progress',
    WidgetMarkup.Parallel (LocatedProblem.SameAt progress.path progress'.path)
      (OnlyJournals sameLog progress progress') Eq inner inner

namespace IsUniform

variable {α β : Type} {inner : Expansion α}

theorem pure
    (value : α) :
    IsUniform (Pure.pure value : Expansion α) :=
  fun _ _ _ => .pure rfl

theorem bind
    {next : α → Expansion β}
    (first : inner.IsUniform)
    (nexts : ∀ value, (next value).IsUniform) :
    IsUniform (inner >>= next) :=
  fun sameLog progress progress' =>
    (first sameLog progress progress').bind_eq fun value => nexts value sameLog progress progress'

theorem map
    (isUniform : inner.IsUniform)
    (change : α → β) :
    IsUniform (change <$> inner) := by
  rw [map_eq_pure_bind]
  exact isUniform.bind fun value => pure (change value)

theorem fail
    (problem : Problem) :
    IsUniform (Expansion.fail problem : Expansion α) := by
  intro sameLog progress progress' before before' related
  refine .error ⟨rfl, rfl, ?_, ?_⟩ related
  · obtain ⟨_, rfl⟩ := related.changed
    rfl
  · obtain ⟨_, rfl⟩ := related.changed'
    rfl

theorem onAttribute
    (isUniform : inner.IsUniform)
    (name : String) :
    IsUniform (Expansion.onAttribute name inner) := by
  intro sameLog progress progress' before before' related
  have ends := isUniform sameLog progress progress' before before' related
  unfold Expansion.onAttribute
  generalize inner before = result, inner before' = result' at ends
  cases ends with
  | ok given between =>
      exact .ok given between
  | error given between =>
      exact .error { given with attributeName := rfl } between

theorem attempt
    (isUniform : inner.IsUniform) :
    IsUniform (Expansion.attempt inner) := by
  intro sameLog progress progress' before before' related
  have ends := isUniform sameLog progress progress' before before' related
  unfold Expansion.attempt
  generalize inner before = result, inner before' = result' at ends
  cases ends with
  | ok given between =>
      exact .ok (congrArg some given) between
  | error given between =>
      exact .ok rfl between

/-- What is done with the journal is uniform if it does not depend on the log. -/
theorem logged
    {inner : Logged α}
    (isBlind : inner.IsBlind)
    (describe : Problem → Problem) :
    IsUniform (Expansion.logged describe inner) := by
  intro sameLog progress progress' before before' related
  have ends := isBlind before.journal before'.journal related.calls
  -- Begun with the same log, both runs are the same one.
  have sameResult (isSame : sameLog) : inner before.journal = inner before'.journal :=
    congrArg inner (related.sameLog isSame)
  obtain ⟨⟨journal, rfl⟩, ⟨journal', rfl⟩, _, _⟩ := related
  unfold Expansion.logged
  dsimp only at ends sameResult ⊢
  generalize inner journal = result, inner journal' = result' at ends sameResult
  cases ends with
  | @ok after after' value between =>
      refine .ok rfl ⟨⟨after, rfl⟩, ⟨after', rfl⟩, between, fun isSame => ?_⟩
      cases sameResult isSame
      rfl
  | @error after after' problem between =>
      refine .error ⟨rfl, rfl, rfl, rfl⟩ ⟨⟨after, rfl⟩, ⟨after', rfl⟩, between, fun isSame => ?_⟩
      cases sameResult isSame
      rfl

/-- Begun in two states with the same calls, what is uniform ends alike. -/
theorem results
    (isUniform : inner.IsUniform)
    (sameLog : Prop)
    {progress progress' : Progress}
    (calls : progress.journal.SameCalls progress'.journal)
    (same : sameLog → progress.journal = progress'.journal) :
    ParallelResults (LocatedProblem.SameAt progress.path progress'.path)
      (OnlyJournals sameLog progress progress') Eq (inner progress) (inner progress') :=
  isUniform sameLog progress progress' progress progress'
    ⟨⟨_, rfl⟩, ⟨_, rfl⟩, calls, same⟩

end IsUniform

end Expansion

open Expansion (IsUniform)

namespace Expression

theorem isSequential_isUniform :
    @IsSequential Expansion _ fun α (first _ : Expansion α) => first.IsUniform where
  pure value := .pure value
  bind firstUniform nextsUniform := firstUniform.bind nextsUniform

/-- Evaluating an expression is uniform if looking up names is. -/
theorem isUniform_evaluate
    {resolve : String → Expansion (Option String)}
    (resolves : ∀ name, (resolve name).IsUniform)
    (source : String) :
    IsUniform (evaluate resolve source).run :=
  isSequential_isUniform.evaluate resolve resolve resolves source

end Expression

namespace Interpreter

variable {interpreter : Interpreter} (scope : Scope)

theorem isUniform_evaluateWith
    {placeholder : String → Expansion (Option String)}
    (placeholders : ∀ name, (placeholder name).IsUniform)
    (source : String) :
    IsUniform (interpreter.evaluateWith scope placeholder source) := by
  refine (Expression.isUniform_evaluate (fun name => ?_) source).bind fun outcome => ?_
  · split
    · exact placeholders name
    · exact .pure _
  · cases outcome with
    | ok value =>
        exact .pure value
    | error error =>
        exact .fail _

theorem isUniform_fillIn
    (segment : Segment) :
    IsUniform (interpreter.fillIn scope segment) := by
  match segment with
  | .literal text =>
      exact .pure text
  | .variable name =>
      rw [fillIn]
      split
      · exact .pure _
      · exact .fail _
  | .translation key =>
      rw [fillIn]
      split
      · exact .pure _
      · exact .fail _
  | .action reference =>
      exact (IsUniform.logged (interpreter.actions.isBlind_invoke reference) _).bind
        fun answer => .pure _
  | .expression source =>
      exact (isUniform_evaluateWith scope (fun _ => .pure none) source).bind fun _ => .pure _

theorem isUniform_fillInAll
    (segments : List Segment) :
    IsUniform (interpreter.fillInAll scope segments) := by
  induction segments with
  | nil =>
      exact .pure ""
  | cons segment rest inductionHypothesis =>
      exact (isUniform_fillIn scope segment).bind fun first =>
        inductionHypothesis.bind fun others => .pure _

/-- A value is filled in in the same way wherever that is done. -/
theorem isUniform_interpolate
    (raw : String) :
    IsUniform (interpreter.interpolate scope raw) := by
  unfold interpolate
  split
  · split
    · exact isUniform_fillInAll scope _
    · exact .fail _
  · exact .pure raw

theorem isUniform_evaluate
    (source : String) :
    IsUniform (interpreter.evaluate scope source) :=
  isUniform_evaluateWith scope
    (fun placeholder => (isUniform_interpolate scope placeholder).attempt) source

theorem isUniform_interpolateAttributes
    (attributes : List Attribute) :
    IsUniform (interpreter.interpolateAttributes scope attributes) := by
  induction attributes with
  | nil =>
      exact .pure []
  | cons entry rest inductionHypothesis =>
      exact ((isUniform_interpolate scope entry.value).onAttribute entry.name).bind
        fun value => inductionHypothesis.bind fun others => .pure _

end Interpreter

end WidgetMarkup
