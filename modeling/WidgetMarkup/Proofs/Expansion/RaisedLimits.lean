import WidgetMarkup.Proofs.Expansion.Limits
import WidgetMarkup.Run
import WidgetMarkup.Vocabulary.Standard

namespace WidgetMarkup

open Markup
open Expansion (Event Task Outcome)

/-!
# Raised limits

Two runs of a document that differ in their limits only. No part of an expansion can see how much
is left of a limit: filling in values and building widgets read none, and the history of an
expansion that keeps to its limits is a history under greater ones too.
-/

/-- Whether an outcome is a failure at a limit. -/
def Expansion.Outcome.IsLimit : Outcome → Prop
  | .ok _ _ => False
  | .error problem _ => problem.problem.isLimit = true

/-- What a run gives is changed without its failing at a limit by that. -/
theorem Expansion.Outcome.isLimit_adapt
    {give : List Node × Scope → List Node × Scope}
    {restore : Progress → Progress}
    {outcome : Outcome} :
    (outcome.adapt give restore).IsLimit ↔ outcome.IsLimit := by
  cases outcome <;> exact Iff.rfl

/-- Whether a run fails at a limit: macro calls are nested too deep, or it is too large. -/
def Run.FailsAtLimit {α : Type} (run : Run α) : Prop :=
  ∃ problem, run.result = .error problem ∧ problem.problem.isLimit = true

namespace Interpreter

/-- The interpreter with other limits. -/
def withLimits (interpreter : Interpreter) (maxDepth maxExpansions : Nat) : Interpreter :=
  { interpreter with settings := { interpreter.settings with maxDepth, maxExpansions } }

variable {interpreter : Interpreter} {maxDepth maxExpansions : Nat}

section Filling

theorem fillInAll_withLimits
    (scope : Scope)
    (segments : List Segment) :
    (interpreter.withLimits maxDepth maxExpansions).fillInAll scope segments =
      interpreter.fillInAll scope segments := by
  induction segments with
  | nil =>
      rfl
  | cons first rest inductionHypothesis =>
      rw [fillInAll, fillInAll, inductionHypothesis]
      rfl

theorem interpolate_withLimits
    (scope : Scope)
    (raw : String) :
    (interpreter.withLimits maxDepth maxExpansions).interpolate scope raw =
      interpreter.interpolate scope raw := by
  unfold interpolate
  simp only [fillInAll_withLimits]

theorem interpolateAttributes_withLimits
    (scope : Scope)
    (attributes : List Attribute) :
    (interpreter.withLimits maxDepth maxExpansions).interpolateAttributes scope attributes =
      interpreter.interpolateAttributes scope attributes := by
  induction attributes with
  | nil =>
      rfl
  | cons first rest inductionHypothesis =>
      rw [interpolateAttributes, interpolateAttributes, interpolate_withLimits,
        inductionHypothesis]

theorem evaluate_withLimits
    (scope : Scope)
    (source : String) :
    (interpreter.withLimits maxDepth maxExpansions).evaluate scope source =
      interpreter.evaluate scope source := by
  unfold evaluate
  simp only [interpolate_withLimits]
  rfl

theorem prepareTag_withLimits
    (node : Node)
    (scope : Scope) :
    (interpreter.withLimits maxDepth maxExpansions).prepareTag node scope =
      interpreter.prepareTag node scope := by
  unfold prepareTag
  simp only [interpolateAttributes_withLimits, interpolate_withLimits]

theorem prepareCall_withLimits
    (rule : MacroRule)
    (node : Node)
    (scope : Scope)
    (path : TagPath) :
    (interpreter.withLimits maxDepth maxExpansions).prepareCall rule node scope path =
      interpreter.prepareCall rule node scope path := by
  unfold prepareCall
  simp only [interpolateAttributes_withLimits]

theorem step?_withLimits
    (script : Script) :
    (interpreter.withLimits maxDepth maxExpansions).step? script = interpreter.step? script := by
  cases script with
  | interpolate raw scope next =>
      rw [step?, step?, interpolate_withLimits]
  | evaluate source scope next =>
      rw [step?, step?, evaluate_withLimits]
  | _ =>
      rfl

end Filling

/-- What can be charged under a limit can be charged under a greater one. -/
theorem charge_withLimits
    {progress paid : Progress}
    (larger : interpreter.settings.maxExpansions ≤ maxExpansions)
    (charged : interpreter.charge progress = .ok () paid) :
    (interpreter.withLimits maxDepth maxExpansions).charge progress = .ok () paid := by
  obtain ⟨left, rfl⟩ := charge_eq_ok charged
  rw [charge, Expansion.charge_apply]
  exact if_neg (Nat.not_lt.2 (Nat.le_trans left larger))

/-- A history that does not end at a limit is one under greater limits. -/
theorem Expands.withLimits
    {active : Nat}
    {task : Task}
    {progress : Progress}
    {events : List Event}
    {outcome : Outcome}
    (expands : interpreter.Expands active task progress events outcome)
    (deeper : interpreter.settings.maxDepth ≤ maxDepth)
    (larger : interpreter.settings.maxExpansions ≤ maxExpansions)
    (noLimit : ¬ outcome.IsLimit) :
    (interpreter.withLimits maxDepth maxExpansions).Expands active task progress events
      outcome := by
  induction expands with
  | nothing =>
      exact .nothing
  | unpaid charged =>
      exact absurd (congrArg Problem.isLimit (charge_eq_error charged)) noLimit
  | stopped charged _ first =>
      exact .stopped (charge_withLimits larger charged) (first noLimit)
  | visited charged _ _ first others =>
      exact .visited (charge_withLimits larger charged) (first id)
        (others fun isLimit => noLimit (Outcome.isLimit_adapt.2 isLimit))
  | unfilled isTag prepared =>
      rw [← prepareTag_withLimits] at prepared
      exact .unfilled isTag prepared
  | tag isTag prepared _ children =>
      rw [← prepareTag_withLimits] at prepared
      exact .tag isTag prepared (children fun isLimit => noLimit (Outcome.isLimit_adapt.2 isLimit))
  | unknown isCall found =>
      exact .unknown isCall found
  | refused isCall found deep =>
      exact absurd rfl noLimit
  | unprepared isCall found shallow prepared =>
      rw [← prepareCall_withLimits] at prepared
      exact .unprepared isCall found (Nat.lt_of_lt_of_le shallow deeper) prepared
  | called isCall found shallow prepared _ body =>
      rw [← prepareCall_withLimits] at prepared
      exact .called isCall found (Nat.lt_of_lt_of_le shallow deeper) prepared
        (body fun isLimit => noLimit (Outcome.isLimit_adapt.2 isLimit))
  | finished =>
      exact .finished
  | unpaidIteration charged =>
      exact absurd (congrArg Problem.isLimit (charge_eq_error charged)) noLimit
  | iteration charged _ rest =>
      exact .iteration (charge_withLimits larger charged) (rest noLimit)
  | failedStep isStep ran =>
      rw [← step?_withLimits] at isStep
      exact .failedStep isStep ran
  | step isStep ran _ rest =>
      rw [← step?_withLimits] at isStep
      exact .step isStep ran (rest noLimit)
  | failedPass _ pass =>
      exact .failedPass (pass noLimit)
  | pass _ _ pass rest =>
      exact .pass (pass id) (rest noLimit)
  | unloaded loaded =>
      exact .unloaded loaded
  | failedInsertion loaded _ pass =>
      exact .failedInsertion loaded (pass noLimit)
  | insertion loaded _ _ pass rest =>
      exact .insertion loaded (pass id) (rest noLimit)

/-- An expansion that does not fail at a limit is the same under greater ones. -/
theorem expandNodes_withLimits
    (deeper : interpreter.settings.maxDepth ≤ maxDepth)
    (larger : interpreter.settings.maxExpansions ≤ maxExpansions)
    {nodes : List Node}
    {scope : Scope}
    {progress : Progress}
    (noLimit : ¬ Outcome.IsLimit (interpreter.expandNodes nodes scope progress)) :
    (interpreter.withLimits maxDepth maxExpansions).expandNodes nodes scope progress =
      interpreter.expandNodes nodes scope progress := by
  obtain ⟨events, expands⟩ :=
    interpreter.exists_expands_perform progress.depth (.forest nodes scope) progress
  exact (expands.withLimits deeper larger noLimit).perform_eq

section Construction

theorem applyAttributes_withLimits
    (entries : List Attribute) :
    Assembly.applyAttributes (interpreter.withLimits maxDepth maxExpansions) entries =
      Assembly.applyAttributes interpreter entries := by
  induction entries with
  | nil =>
      rfl
  | cons first rest inductionHypothesis =>
      rw [Assembly.applyAttributes, Assembly.applyAttributes, inductionHypothesis]
      rfl

theorem beginTag_withLimits
    (path : TagPath)
    (rule : TagRule)
    (cells : Option CellProperties)
    (node : Node) :
    (interpreter.withLimits maxDepth maxExpansions).beginTag path rule cells node =
      interpreter.beginTag path rule cells node := by
  unfold beginTag
  simp only [applyAttributes_withLimits]
  rfl

mutual

theorem buildTag_withLimits
    (parent : TagPath)
    (openIds : List String)
    (cells : Option CellProperties) :
    ∀ node : Node,
      (interpreter.withLimits maxDepth maxExpansions).buildTag parent openIds cells node =
        interpreter.buildTag parent openIds cells node
  | ⟨name, isMacro, attributes, children, text, position⟩ => by
      rw [buildTag, buildTag]
      simp only [beginTag_withLimits, buildChildren_withLimits _ _ _ _ children]
      rfl

theorem buildChildren_withLimits
    (path : TagPath)
    (openIds : List String)
    (cells : Option CellProperties)
    (assembly : Assembly) :
    ∀ nodes : List Node,
      (interpreter.withLimits maxDepth maxExpansions).buildChildren path openIds cells assembly
          nodes =
        interpreter.buildChildren path openIds cells assembly nodes
  | [] => rfl
  | node :: rest => by
      rw [buildChildren, buildChildren, buildTag_withLimits path openIds cells node]
      simp only [buildChildren_withLimits path openIds cells _ rest]

end

theorem buildRoots_withLimits
    (roots : List Widget)
    (nodes : List Node) :
    (interpreter.withLimits maxDepth maxExpansions).buildRoots roots nodes =
      interpreter.buildRoots roots nodes := by
  induction nodes generalizing roots with
  | nil =>
      rfl
  | cons node rest inductionHypothesis =>
      rw [buildRoots, buildRoots, buildTag_withLimits]
      simp only [inductionHypothesis]

/-- Construction knows no limits. -/
theorem runConstruction_withLimits
    (journal : Journal)
    (nodes : List Node) :
    (interpreter.withLimits maxDepth maxExpansions).runConstruction journal nodes =
      interpreter.runConstruction journal nodes := by
  unfold runConstruction build
  rw [buildRoots_withLimits]

end Construction

/-- The expansion of a document fails at a limit or is the same under greater ones. -/
theorem runExpansion_withLimits
    (deeper : interpreter.settings.maxDepth ≤ maxDepth)
    (larger : interpreter.settings.maxExpansions ≤ maxExpansions)
    (imports : List String)
    (nodes : List Node) :
    (interpreter.runExpansion imports nodes).FailsAtLimit ∨
      (interpreter.withLimits maxDepth maxExpansions).runExpansion imports nodes =
        interpreter.runExpansion imports nodes := by
  have expansion :
      (interpreter.withLimits maxDepth maxExpansions).beginning imports =
        interpreter.beginning imports :=
    rfl
  by_cases limit :
      Outcome.IsLimit (interpreter.expandNodes nodes .empty (interpreter.beginning imports))
  · left
    unfold runExpansion expandDocument
    rw [Expansion.bind_apply]
    cases ran : interpreter.expandNodes nodes .empty (interpreter.beginning imports) with
    | ok value after =>
        rw [ran] at limit
        cases limit
    | error problem after =>
        rw [ran] at limit
        exact ⟨problem, rfl, limit⟩
  · right
    unfold runExpansion expandDocument
    rw [Expansion.bind_apply, Expansion.bind_apply, expansion,
      expandNodes_withLimits deeper larger limit]

/-- A run fails at a limit or is the same under greater ones. -/
theorem runWithin_withLimits
    (deeper : interpreter.settings.maxDepth ≤ maxDepth)
    (larger : interpreter.settings.maxExpansions ≤ maxExpansions)
    (imports : List String)
    (source : String) :
    (interpreter.runWithin imports source).FailsAtLimit ∨
      (interpreter.withLimits maxDepth maxExpansions).runWithin imports source =
        interpreter.runWithin imports source := by
  have marker :
      (interpreter.withLimits maxDepth maxExpansions).settings.marker =
        interpreter.settings.marker :=
    rfl
  unfold runWithin
  rw [marker]
  cases forestOfSource interpreter.settings.marker source with
  | error fault =>
      exact .inr rfl
  | ok nodes =>
      rcases runExpansion_withLimits deeper larger imports nodes with limit | same
      · obtain ⟨problem, failed, isLimit⟩ := limit
        left
        cases ran : interpreter.runExpansion imports nodes with
        | mk result journal =>
            rw [ran] at failed
            cases failed
            exact ⟨problem, by simp only [ran], isLimit⟩
      · right
        simp only [same, runConstruction_withLimits]

/--
Limits are monotone. Under greater limits a source or template gives the same run, with the same
result, log and action calls, unless the run under the smaller limits fails at one of them; so a
document that was given is still given.
-/
theorem parse_withLimits
    (interpreter : Interpreter)
    (maxDepth maxExpansions : Nat)
    (deeper : interpreter.settings.maxDepth ≤ maxDepth)
    (larger : interpreter.settings.maxExpansions ≤ maxExpansions) :
    (∀ source,
      (interpreter.parse source).FailsAtLimit ∨
        (interpreter.withLimits maxDepth maxExpansions).parse source =
          interpreter.parse source) ∧
    (∀ path,
      (interpreter.parseTemplate path).FailsAtLimit ∨
        (interpreter.withLimits maxDepth maxExpansions).parseTemplate path =
          interpreter.parseTemplate path) ∧
    ∀ source document,
      (interpreter.parse source).result = .ok document →
        ((interpreter.withLimits maxDepth maxExpansions).parse source).result = .ok document := by
  have parses (source : String) := runWithin_withLimits deeper larger [] source
  refine ⟨parses, fun path => ?template, fun source document ran => ?document⟩
  case template =>
    have templates :
        (interpreter.withLimits maxDepth maxExpansions).templates = interpreter.templates :=
      rfl
    unfold parseTemplate
    rw [templates]
    cases interpreter.templates path with
    | none =>
        exact .inr rfl
    | some source =>
        exact runWithin_withLimits deeper larger [path] source
  case document =>
    rcases parses source with ⟨problem, failed, _⟩ | same
    · cases ran.symm.trans failed
    · exact (congrArg Run.result same).trans ran

/-- A loop that uses up what may be charged runs its actions in the same way when more may be. -/
theorem parse_withLimits_looped :
    let actions : Actions := ({} : Actions).insert "mark" {}
    let interpreter : Interpreter :=
      { vocabulary := .standard, actions, settings := { maxDepth := 2, maxExpansions := 5 } }
    let source := "<:loop times=\"2\"><:invoke answer=\"mark\"/></:loop>"
    interpreter.settings.maxDepth ≤ 3 ∧ interpreter.settings.maxExpansions ≤ 50 ∧
      (interpreter.parse source).journal.calls.size = 2 ∧
      (interpreter.withLimits 3 50).parse source = interpreter.parse source := by
  intro actions interpreter source
  have deeper : interpreter.settings.maxDepth ≤ 3 := by decide
  have larger : interpreter.settings.maxExpansions ≤ 50 := by decide
  have ran :
      (interpreter.parse source).result.isOk = true ∧
        (interpreter.parse source).journal.calls.size = 2 := by
    decide +kernel
  have same := (parse_withLimits interpreter 3 50 deeper larger).1 source
  refine ⟨deeper, larger, ran.2, same.resolve_left ?_⟩
  rintro ⟨problem, failed, _⟩
  rw [failed] at ran
  cases ran.1

end Interpreter

end WidgetMarkup
