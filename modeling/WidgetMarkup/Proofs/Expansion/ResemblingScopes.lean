import WidgetMarkup.Proofs.Construction.Parallel
import WidgetMarkup.Proofs.Expansion.Bindings
import WidgetMarkup.Proofs.Vocabulary.ResemblingScripts

namespace WidgetMarkup

open Markup
open Expansion (Event Moment Outcome Task)

/-!
# Expansion in scopes that resemble each other

Where every name is bound to the same in two scopes, values are filled in alike, and with the macros
of the language nodes come to the same in both. Both runs go through the same states and meet the
same problem; the scopes that they leave resemble each other again.
-/

namespace Expansion

/-- Whether two outcomes are the same nodes, with scopes that resemble each other, or the same
problem, in the same state. -/
abbrev Outcome.Resembles : Outcome → Outcome → Prop :=
  ParallelResults Eq Eq fun value value' => value.1 = value'.1 ∧ value.2.Resembles value'.2

theorem Outcome.Resembles.of_ok
    {nodes : List Node}
    {left : Scope}
    {after : Progress}
    {outcome : Outcome}
    (resembles : Outcome.Resembles (.ok (nodes, left) after) outcome) :
    ∃ left', outcome = .ok (nodes, left') after ∧ left.Resembles left' := by
  cases resembles with
  | @ok _ value' _ _ given same =>
      obtain ⟨_, left'⟩ := value'
      obtain ⟨rfl, leaves⟩ := given
      cases same
      exact ⟨left', rfl, leaves⟩

theorem Outcome.Resembles.of_error
    {problem : LocatedProblem}
    {after : Progress}
    {outcome : Outcome}
    (resembles : Outcome.Resembles (.error problem after) outcome) :
    outcome = .error problem after := by
  cases resembles with
  | error given same =>
      cases given
      cases same
      rfl

theorem Outcome.Resembles.adapt
    {outcome outcome' : Outcome}
    {give give' : List Node × Scope → List Node × Scope}
    (resembles : outcome.Resembles outcome')
    (gives :
      ∀ nodes left left', left.Resembles left' →
        (give (nodes, left)).1 = (give' (nodes, left')).1 ∧
          (give (nodes, left)).2.Resembles (give' (nodes, left')).2)
    (restore : Progress → Progress) :
    (outcome.adapt give restore).Resembles (outcome'.adapt give' restore) := by
  cases resembles with
  | @ok value value' after _ given same =>
      obtain ⟨nodes, left⟩ := value
      obtain ⟨_, left'⟩ := value'
      obtain ⟨rfl, leaves⟩ := given
      cases same
      exact .ok (gives nodes left left' leaves) rfl
  | error given same =>
      cases same
      exact .error given rfl

/-- Whether two tasks are the same but for scopes that resemble each other. -/
inductive Task.Resembles : Task → Task → Prop where
  | forest
      {scope scope' : Scope}
      (nodes : List Node)
      (scopes : scope.Resembles scope') :
      Resembles (.forest nodes scope) (.forest nodes scope')
  | node
      {scope scope' : Scope}
      (node : Node)
      (scopes : scope.Resembles scope') :
      Resembles (.node node scope) (.node node scope')
  | script
      {script script' : Script}
      (rule : MacroRule)
      (scripts : script.Resembles script') :
      Resembles (.script rule script) (.script rule script')

end Expansion

namespace Interpreter

variable {interpreter : Interpreter} {scope scope' : Scope}

section Filling

theorem lookup?_congr
    (resembles : scope.Resembles scope') :
    interpreter.lookup? scope = interpreter.lookup? scope' :=
  funext fun name => resembles.lookup? interpreter.sources name

theorem evaluateWith_congr
    (resembles : scope.Resembles scope') :
    interpreter.evaluateWith scope = interpreter.evaluateWith scope' := by
  funext placeholder source
  unfold evaluateWith
  rw [lookup?_congr resembles]

theorem fillInAll_congr
    (resembles : scope.Resembles scope')
    (segments : List Segment) :
    interpreter.fillInAll scope segments = interpreter.fillInAll scope' segments := by
  induction segments with
  | nil =>
      rfl
  | cons segment rest inductionHypothesis =>
      have sameFirst : interpreter.fillIn scope segment = interpreter.fillIn scope' segment := by
        unfold fillIn
        rw [lookup?_congr resembles, evaluateWith_congr resembles]
      rw [fillInAll, fillInAll, sameFirst, inductionHypothesis]

theorem interpolate_congr
    (resembles : scope.Resembles scope') :
    interpreter.interpolate scope = interpreter.interpolate scope' := by
  funext raw
  unfold interpolate
  simp only [fillInAll_congr resembles]

theorem evaluate_congr
    (resembles : scope.Resembles scope') :
    interpreter.evaluate scope = interpreter.evaluate scope' := by
  funext source
  unfold evaluate
  rw [evaluateWith_congr resembles, interpolate_congr resembles]

theorem interpolateAttributes_congr
    (resembles : scope.Resembles scope')
    (attributes : List Attribute) :
    interpreter.interpolateAttributes scope attributes =
      interpreter.interpolateAttributes scope' attributes := by
  induction attributes with
  | nil =>
      rfl
  | cons entry rest inductionHypothesis =>
      rw [interpolateAttributes, interpolateAttributes, interpolate_congr resembles,
        inductionHypothesis]

theorem prepareTag_congr
    (resembles : scope.Resembles scope')
    (node : Node) :
    interpreter.prepareTag node scope = interpreter.prepareTag node scope' := by
  unfold prepareTag
  rw [interpolateAttributes_congr resembles, interpolate_congr resembles]

theorem prepareCall_congr
    (resembles : scope.Resembles scope')
    (rule : MacroRule)
    (node : Node)
    (path : TagPath) :
    interpreter.prepareCall rule node scope path =
      interpreter.prepareCall rule node scope' path := by
  unfold prepareCall
  rw [interpolateAttributes_congr resembles]

end Filling

/-- The macros that are found only look names up, with the vocabulary of the language. -/
theorem onlyLooksUp_of_findMacro?
    (standard : interpreter.vocabulary = .standard)
    {progress : Progress}
    (defines : progress.DefinesUserMacros)
    {name : String}
    {rule : MacroRule}
    (found : interpreter.findMacro? progress name = some rule) :
    rule.OnlyLooksUp := by
  rw [findMacro?] at found
  cases defined : progress.macros.find? name with
  | some rule' =>
      rw [defined] at found
      cases found
      obtain ⟨definition, rfl⟩ := defines name rule defined
      exact definition.onlyLooksUp_toRule
  | none =>
      rw [defined, standard] at found
      obtain ⟨entry, listed, _, rfl⟩ := Vocabulary.exists_of_macroRule?_standard found
      exact StandardMacro.onlyLooksUp_of_mem_all entry listed

/-- What goes on with the same value goes on alike. -/
theorem resembles_map
    {α : Type}
    {next next' : α → Script}
    (rest : ∀ value, (next value).Resembles (next' value))
    (inner : Expansion α)
    (progress : Progress) :
    ParallelResults Eq Eq Script.Resembles ((next <$> inner) progress)
      ((next' <$> inner) progress) := by
  rw [map_eq_pure_bind, map_eq_pure_bind, Expansion.bind_apply, Expansion.bind_apply]
  cases inner progress with
  | ok value between =>
      exact .ok (rest value) rfl
  | error problem after =>
      exact .error rfl rfl

/-- Scripts that take the same steps take the next one alike. -/
theorem resembles_step
    {script script' : Script}
    {step : Expansion Script}
    (scripts : script.Resembles script')
    (isStep : interpreter.step? script = some step)
    (progress : Progress) :
    ∃ step',
      interpreter.step? script' = some step' ∧
        ParallelResults Eq Eq Script.Resembles (step progress) (step' progress) := by
  cases scripts with
  | finish | charge | expand | insertTemplate =>
      cases isStep
  | fail problem =>
      cases isStep
      exact ⟨_, rfl, .error rfl rfl⟩
  | interpolate raw resembles rest =>
      cases isStep
      refine ⟨_, rfl, ?_⟩
      rw [interpolate_congr resembles]
      exact resembles_map rest _ progress
  | evaluate source resembles rest =>
      cases isStep
      refine ⟨_, rfl, ?_⟩
      rw [evaluate_congr resembles]
      exact resembles_map rest _ progress
  | invoke reference rest =>
      cases isStep
      exact ⟨_, rfl, resembles_map rest _ progress⟩
  | define name interpolates body rest =>
      cases isStep
      exact ⟨_, rfl, .ok rest rfl⟩
  | addDefault tag entry rest =>
      cases isStep
      exact ⟨_, rfl, .ok rest rfl⟩
  | record level text rest =>
      cases isStep
      exact ⟨_, rfl, .ok rest rfl⟩

/-- A step that succeeds does so in both. -/
theorem resembles_step_ok
    {script script' next : Script}
    {step : Expansion Script}
    {progress between : Progress}
    (scripts : script.Resembles script')
    (isStep : interpreter.step? script = some step)
    (ran : step progress = .ok next between) :
    ∃ step' next',
      interpreter.step? script' = some step' ∧ step' progress = .ok next' between ∧
        next.Resembles next' := by
  obtain ⟨step', isStep', results⟩ := resembles_step scripts isStep progress
  rw [ran] at results
  generalize ran' : step' progress = result' at results
  cases results with
  | ok given same =>
      cases same
      exact ⟨step', _, isStep', ran', given⟩

/-- A step that fails does so in both. -/
theorem resembles_step_error
    {script script' : Script}
    {step : Expansion Script}
    {progress after : Progress}
    {problem : LocatedProblem}
    (scripts : script.Resembles script')
    (isStep : interpreter.step? script = some step)
    (ran : step progress = .error problem after) :
    ∃ step', interpreter.step? script' = some step' ∧ step' progress = .error problem after := by
  obtain ⟨step', isStep', results⟩ := resembles_step scripts isStep progress
  rw [ran] at results
  generalize ran' : step' progress = result' at results
  cases results with
  | error given same =>
      cases given
      cases same
      exact ⟨step', isStep', ran'⟩

/-- Tasks that are the same but for scopes that resemble each other end alike. -/
theorem Expands.resembles
    {active : Nat}
    {task task' : Task}
    {progress : Progress}
    {events : List Event}
    {outcome : Outcome}
    (expands : interpreter.Expands active task progress events outcome)
    (standard : interpreter.vocabulary = .standard)
    (lawful : Moment.IsLawful ⟨task, progress⟩)
    (tasks : task.Resembles task') :
    ∃ outcome',
      interpreter.Expands active task' progress events outcome' ∧ outcome.Resembles outcome' := by
  induction expands generalizing task' with
  | nothing =>
      cases tasks with
      | forest _ scopes =>
          exact ⟨_, .nothing, .ok ⟨rfl, scopes⟩ rfl⟩
  | unpaid charged =>
      cases tasks with
      | forest _ scopes =>
          exact ⟨_, .unpaid charged, .error rfl rfl⟩
  | stopped charged firstRun first =>
      cases tasks with
      | forest _ scopes =>
          obtain ⟨_, first', results⟩ :=
            first ((Proceeds.visit charged).isLawful standard lawful) (.node _ scopes)
          cases results.of_error
          exact ⟨_, .stopped charged first', .error rfl rfl⟩
  | visited charged firstRun _ first others =>
      cases tasks with
      | forest _ scopes =>
          obtain ⟨_, first', results⟩ :=
            first ((Proceeds.visit charged).isLawful standard lawful) (.node _ scopes)
          obtain ⟨_, rfl, leaves⟩ := results.of_ok
          obtain ⟨_, others', results⟩ :=
            others ((Proceeds.others charged firstRun.perform_eq).isLawful standard lawful)
              (.forest _ leaves)
          exact ⟨_, .visited charged first' others',
            results.adapt (fun _ _ _ left => ⟨rfl, left⟩) id⟩
  | unfilled isTag prepared =>
      cases tasks with
      | node _ scopes =>
          rw [prepareTag_congr scopes] at prepared
          exact ⟨_, .unfilled isTag prepared, .error rfl rfl⟩
  | tag isTag prepared _ children =>
      cases tasks with
      | node _ scopes =>
          have inside := (Proceeds.inside isTag prepared).isLawful standard lawful
          rw [prepareTag_congr scopes] at prepared
          obtain ⟨_, children', results⟩ := children inside (.forest _ scopes.child)
          exact ⟨_, .tag isTag prepared children',
            results.adapt (fun _ _ _ _ => ⟨rfl, scopes⟩) _⟩
  | unknown isCall found =>
      cases tasks with
      | node _ scopes =>
          exact ⟨_, .unknown isCall found, .error rfl rfl⟩
  | refused isCall found deep =>
      cases tasks with
      | node _ scopes =>
          exact ⟨_, .refused isCall found deep, .error rfl rfl⟩
  | unprepared isCall found shallow prepared =>
      cases tasks with
      | node _ scopes =>
          rw [prepareCall_congr scopes] at prepared
          exact ⟨_, .unprepared isCall found shallow prepared, .error rfl rfl⟩
  | called isCall found shallow prepared _ body =>
      cases tasks with
      | node _ scopes =>
          have calls := (Proceeds.call isCall found shallow prepared).isLawful standard lawful
          rw [prepareCall_congr scopes] at prepared
          have looksUp := onlyLooksUp_of_findMacro? standard lawful.defines found
          obtain ⟨_, body', results⟩ :=
            body calls (.script _ (looksUp interpreter.sources _ _ _ scopes))
          exact ⟨_, .called isCall found shallow prepared body',
            results.adapt (fun _ _ _ left => ⟨rfl, left⟩) _⟩
  | finished =>
      cases tasks with
      | script rule scripts =>
          cases scripts with
          | finish nodes scopes =>
              exact ⟨_, .finished, .ok ⟨rfl, scopes⟩ rfl⟩
  | unpaidIteration charged =>
      cases tasks with
      | script rule scripts =>
          cases scripts with
          | charge next =>
              exact ⟨_, .unpaidIteration charged, .error rfl rfl⟩
  | iteration charged _ rest =>
      cases tasks with
      | script rule scripts =>
          cases scripts with
          | charge next =>
              obtain ⟨_, rest', results⟩ :=
                rest ((Proceeds.iteration charged).isLawful standard lawful) (.script _ next)
              exact ⟨_, .iteration charged rest', results⟩
  | failedStep isStep ran =>
      cases tasks with
      | script rule scripts =>
          obtain ⟨_, isStep', ran'⟩ := resembles_step_error scripts isStep ran
          exact ⟨_, .failedStep isStep' ran', .error rfl rfl⟩
  | step isStep ran _ rest =>
      cases tasks with
      | script rule scripts =>
          obtain ⟨_, _, isStep', ran', next⟩ := resembles_step_ok scripts isStep ran
          obtain ⟨_, rest', results⟩ :=
            rest ((Proceeds.step isStep ran).isLawful standard lawful) (.script _ next)
          exact ⟨_, .step isStep' ran' rest', results⟩
  | failedPass _ pass =>
      cases tasks with
      | script rule scripts =>
          cases scripts with
          | expand nodes scopes next =>
              obtain ⟨_, pass', results⟩ :=
                pass (Proceeds.pass.isLawful standard lawful) (.forest _ scopes)
              cases results.of_error
              exact ⟨_, .failedPass pass', .error rfl rfl⟩
  | pass passRun _ pass rest =>
      cases tasks with
      | script rule scripts =>
          cases scripts with
          | expand nodes scopes next =>
              obtain ⟨_, pass', results⟩ :=
                pass (Proceeds.pass.isLawful standard lawful) (.forest _ scopes)
              obtain ⟨_, rfl, leaves⟩ := results.of_ok
              obtain ⟨_, rest', results⟩ :=
                rest ((Proceeds.afterPass passRun.perform_eq).isLawful standard lawful)
                  (.script _ (next _ _ _ leaves))
              exact ⟨_, .pass pass' rest', results⟩
  | unloaded loaded =>
      cases tasks with
      | script rule scripts =>
          cases scripts with
          | insertTemplate _ _ _ scopes next =>
              exact ⟨_, .unloaded loaded, .error rfl rfl⟩
  | failedInsertion loaded _ pass =>
      cases tasks with
      | script rule scripts =>
          cases scripts with
          | insertTemplate _ _ _ scopes next =>
              obtain ⟨_, pass', results⟩ :=
                pass ((Proceeds.insertion loaded).isLawful standard lawful)
                  (.forest _ scopes.child)
              cases results.of_error
              exact ⟨_, .failedInsertion loaded pass', .error rfl rfl⟩
  | insertion loaded passRun _ pass rest =>
      cases tasks with
      | script rule scripts =>
          cases scripts with
          | insertTemplate _ _ _ scopes next =>
              obtain ⟨_, pass', results⟩ :=
                pass ((Proceeds.insertion loaded).isLawful standard lawful)
                  (.forest _ scopes.child)
              obtain ⟨_, rfl, leaves⟩ := results.of_ok
              obtain ⟨_, rest', results⟩ :=
                rest ((Proceeds.afterInsertion loaded passRun.perform_eq).isLawful standard lawful)
                  (.script _ (next _))
              exact ⟨_, .insertion loaded pass' rest', results⟩

/-- With the macros of the language, a task comes to the same in scopes that resemble each other. -/
theorem resembles_perform
    {task task' : Task}
    {progress : Progress}
    (standard : interpreter.vocabulary = .standard)
    (lawful : Moment.IsLawful ⟨task, progress⟩)
    (tasks : task.Resembles task') :
    Outcome.Resembles (interpreter.perform task progress) (interpreter.perform task' progress) := by
  obtain ⟨_, expands⟩ := interpreter.exists_expands_perform 0 task progress
  obtain ⟨_, expands', results⟩ := expands.resembles standard lawful tasks
  rwa [expands'.perform_eq]

end Interpreter

end WidgetMarkup
