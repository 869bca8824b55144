import WidgetMarkup.Proofs.Expansion.Order
import WidgetMarkup.Run
import Mathlib.Logic.Relation

namespace WidgetMarkup

open Markup
open Expansion (Event Task Outcome OnlyLogs)

/-!
# Moments of an expansion

While a task is performed, others are begun on its behalf, each in the state that has been come to
by then. A history says what comes of a task; its moments say what is done on the way there, also
on the way to a failure. For what fails is one of them, in its own right.
-/

namespace Expansion

/-- A moment of an expansion: a task that is begun, and the state that it is begun in. -/
structure Moment where
  task : Task
  progress : Progress

/-- Whether a moment is one of an expansion with the macros of the language: its task is lawful, and
documents have defined the macros that are defined. -/
structure Moment.IsLawful (moment : Moment) : Prop where
  task :
    ∃ taken, moment.task.IsLawful (fun _ => false) taken
  defines :
    moment.progress.DefinesUserMacros

/-- A moment whose script is lawful is one of an expansion with the macros of the language. -/
theorem Moment.IsLawful.ofScript
    {rule : MacroRule}
    {steps : Script}
    {taken : Nat}
    {progress : Progress}
    (lawful : steps.IsLawful taken)
    (defines : progress.DefinesUserMacros) :
    Moment.IsLawful ⟨.script rule steps, progress⟩ :=
  ⟨⟨taken, taken, lawful, fun counted => nomatch counted⟩, defines⟩

end Expansion

open Expansion (Moment)

namespace Interpreter

/-- The moments that come next on behalf of a moment. -/
inductive Proceeds (interpreter : Interpreter) : Moment → Moment → Prop where
  /-- The next node is visited. -/
  | visit {node rest scope progress paid}
      (charged : interpreter.charge progress = .ok () paid) :
      Proceeds interpreter ⟨.forest (node :: rest) scope, progress⟩ ⟨.node node scope, paid⟩
  /-- The nodes after one that has been visited are next. -/
  | others {node rest scope progress paid expanded left between}
      (charged : interpreter.charge progress = .ok () paid)
      (first : interpreter.expandNode node scope paid = .ok (expanded, left) between) :
      Proceeds interpreter ⟨.forest (node :: rest) scope, progress⟩ ⟨.forest rest left, between⟩
  /-- The children of a tag are expanded in a scope of their own. -/
  | inside {node scope progress filled ready}
      (isTag : interpreter.isMacroCall progress node = false)
      (prepared :
        interpreter.prepareTag node scope
            { progress with path := progress.path.child node.name (node.attribute? "id") } =
          .ok filled ready) :
      Proceeds interpreter ⟨.node node scope, progress⟩
        ⟨.forest node.children scope.child, ready⟩
  /-- A macro call is let in. -/
  | call {node scope progress rule call ready}
      (isCall : interpreter.isMacroCall progress node = true)
      (found : interpreter.findMacro? progress node.name = some rule)
      (shallow : progress.depth < interpreter.settings.maxDepth)
      (prepared :
        interpreter.prepareCall rule node scope (interpreter.macroPath progress.path node.name)
            { progress with path := interpreter.macroPath progress.path node.name } =
          .ok call ready) :
      Proceeds interpreter ⟨.node node scope, progress⟩
        ⟨.script rule (rule.script interpreter.sources call scope),
          { ready with depth := ready.depth + 1 }⟩
  /-- A repetition is paid for. -/
  | iteration {rule next progress paid}
      (charged : interpreter.charge progress = .ok () paid) :
      Proceeds interpreter ⟨.script rule (.charge next), progress⟩ ⟨.script rule next, paid⟩
  /-- A step without any nodes is taken. -/
  | step {rule script inner progress next between}
      (isStep : interpreter.step? script = some inner)
      (ran : inner progress = .ok next between) :
      Proceeds interpreter ⟨.script rule script, progress⟩ ⟨.script rule next, between⟩
  /-- Nodes are expanded on behalf of a macro call. -/
  | pass {rule nodes scope next progress} :
      Proceeds interpreter ⟨.script rule (.expand nodes scope next), progress⟩
        ⟨.forest nodes scope, progress⟩
  /-- A script goes on with nodes that have been expanded. -/
  | afterPass {rule nodes scope next progress expanded left between}
      (passed : interpreter.expandNodes nodes scope progress = .ok (expanded, left) between) :
      Proceeds interpreter ⟨.script rule (.expand nodes scope next), progress⟩
        ⟨.script rule (next expanded left), between⟩
  /-- The nodes of a template are expanded. -/
  | insertion {rule template marker content scope next progress nodes ready}
      (loaded : interpreter.loadTemplate template progress = .ok nodes ready) :
      Proceeds interpreter
        ⟨.script rule (.insertTemplate template marker content scope next), progress⟩
        ⟨.forest (Node.replaceMarkers marker content nodes) scope.child,
          { ready with imports := ready.imports ++ [template] }⟩
  /-- A script goes on with the nodes of a template that have been expanded. -/
  | afterInsertion
      {rule template marker content scope next progress nodes ready expanded left between}
      (loaded : interpreter.loadTemplate template progress = .ok nodes ready)
      (passed :
        interpreter.expandNodes (Node.replaceMarkers marker content nodes) scope.child
            { ready with imports := ready.imports ++ [template] } =
          .ok (expanded, left) between) :
      Proceeds interpreter
        ⟨.script rule (.insertTemplate template marker content scope next), progress⟩
        ⟨.script rule (next expanded), { between with imports := between.imports.dropLast }⟩

/-- Whether a moment comes on behalf of another one, sooner or later, or is the same. -/
def Reaches (interpreter : Interpreter) : Moment → Moment → Prop :=
  Relation.ReflTransGen interpreter.Proceeds

/-- The problems that moments meet in their own right. -/
inductive Fails (interpreter : Interpreter) : Moment → LocatedProblem → Prop where
  /-- A node cannot be paid for. -/
  | unpaid {node rest scope progress problem after}
      (charged : interpreter.charge progress = .error problem after) :
      Fails interpreter ⟨.forest (node :: rest) scope, progress⟩ problem
  /-- The values of a tag cannot be filled in. -/
  | unfilled {node scope progress problem after}
      (isTag : interpreter.isMacroCall progress node = false)
      (prepared :
        interpreter.prepareTag node scope
            { progress with path := progress.path.child node.name (node.attribute? "id") } =
          .error problem after) :
      Fails interpreter ⟨.node node scope, progress⟩ problem
  /-- There is no macro of the name. -/
  | unknown {node scope progress}
      (isCall : interpreter.isMacroCall progress node = true)
      (found : interpreter.findMacro? progress node.name = none) :
      Fails interpreter ⟨.node node scope, progress⟩
        ((Problem.unknownMacro node.name).located (interpreter.macroPath progress.path node.name))
  /-- As many macro calls are going on as there may be. -/
  | refused {node scope progress rule}
      (isCall : interpreter.isMacroCall progress node = true)
      (found : interpreter.findMacro? progress node.name = some rule)
      (deep : interpreter.settings.maxDepth ≤ progress.depth) :
      Fails interpreter ⟨.node node scope, progress⟩
        ((Problem.tooDeep interpreter.settings.maxDepth).located
          (interpreter.macroPath progress.path node.name))
  /-- The attributes of a macro call cannot be filled in. -/
  | unprepared {node scope progress rule problem after}
      (isCall : interpreter.isMacroCall progress node = true)
      (found : interpreter.findMacro? progress node.name = some rule)
      (shallow : progress.depth < interpreter.settings.maxDepth)
      (prepared :
        interpreter.prepareCall rule node scope (interpreter.macroPath progress.path node.name)
            { progress with path := interpreter.macroPath progress.path node.name } =
          .error problem after) :
      Fails interpreter ⟨.node node scope, progress⟩ problem
  /-- A repetition cannot be paid for. -/
  | unpaidIteration {rule next progress problem after}
      (charged : interpreter.charge progress = .error problem after) :
      Fails interpreter ⟨.script rule (.charge next), progress⟩ problem
  /-- A step without any nodes fails. -/
  | step {rule script inner progress problem after}
      (isStep : interpreter.step? script = some inner)
      (ran : inner progress = .error problem after) :
      Fails interpreter ⟨.script rule script, progress⟩ problem
  /-- A template cannot be read. -/
  | unloaded {rule template marker content scope next progress problem after}
      (loaded : interpreter.loadTemplate template progress = .error problem after) :
      Fails interpreter
        ⟨.script rule (.insertTemplate template marker content scope next), progress⟩ problem

variable {interpreter : Interpreter} {earlier later : Moment}

/-- What the engine makes of a task has a derivation. -/
theorem exists_expands
    (task : Task)
    {progress : Progress}
    {outcome : Outcome}
    (performed : interpreter.perform task progress = outcome)
    (active : Nat) :
    ∃ events, interpreter.Expands active task progress events outcome :=
  performed ▸ interpreter.exists_expands_perform active task progress

/-- What meets a problem in its own right fails with it. -/
theorem Fails.failed
    {moment : Moment}
    {problem : LocatedProblem}
    (fails : interpreter.Fails moment problem) :
    ∃ after, interpreter.perform moment.task moment.progress = .error problem after := by
  cases fails with
  | unpaid charged =>
      exact ⟨_, (@Expands.unpaid _ 0 _ _ _ _ _ _ charged).perform_eq⟩
  | unfilled isTag prepared =>
      exact ⟨_, (@Expands.unfilled _ 0 _ _ _ _ _ isTag prepared).perform_eq⟩
  | unknown isCall found =>
      exact ⟨_, (@Expands.unknown _ 0 _ _ _ isCall found).perform_eq⟩
  | refused isCall found deep =>
      exact ⟨_, (@Expands.refused _ 0 _ _ _ _ isCall found deep).perform_eq⟩
  | unprepared isCall found shallow prepared =>
      exact ⟨_, (@Expands.unprepared _ 0 _ _ _ _ _ _ isCall found shallow prepared).perform_eq⟩
  | unpaidIteration charged =>
      exact ⟨_, (@Expands.unpaidIteration _ 0 _ _ _ _ _ charged).perform_eq⟩
  | step isStep ran =>
      exact ⟨_, (@Expands.failedStep _ 0 _ _ _ _ _ _ isStep ran).perform_eq⟩
  | unloaded loaded =>
      exact ⟨_, (@Expands.unloaded _ 0 _ _ _ _ _ _ _ _ _ loaded).perform_eq⟩

/-- What fails on behalf of a moment fails the task of that moment. -/
theorem Proceeds.failed
    (proceeds : interpreter.Proceeds earlier later)
    {problem : LocatedProblem}
    {after : Progress}
    (failed : interpreter.perform later.task later.progress = .error problem after) :
    ∃ after', interpreter.perform earlier.task earlier.progress = .error problem after' := by
  cases proceeds with
  | visit charged =>
      obtain ⟨_, node⟩ := exists_expands _ failed 0
      exact ⟨_, (Expands.stopped charged node).perform_eq⟩
  | others charged first =>
      obtain ⟨_, visited⟩ := exists_expands (.node _ _) first 0
      obtain ⟨_, others⟩ := exists_expands _ failed 0
      exact ⟨_, (Expands.visited charged visited others).perform_eq⟩
  | inside isTag prepared =>
      obtain ⟨_, children⟩ := exists_expands _ failed 0
      exact ⟨_, (Expands.tag isTag prepared children).perform_eq⟩
  | call isCall found shallow prepared =>
      obtain ⟨_, body⟩ := exists_expands _ failed 1
      exact ⟨_, (Expands.called isCall found shallow prepared body).perform_eq⟩
  | iteration charged =>
      obtain ⟨_, rest⟩ := exists_expands _ failed 0
      exact ⟨_, (Expands.iteration charged rest).perform_eq⟩
  | step isStep ran =>
      obtain ⟨_, rest⟩ := exists_expands _ failed 0
      exact ⟨_, (Expands.step isStep ran rest).perform_eq⟩
  | pass =>
      obtain ⟨_, pass⟩ := exists_expands _ failed 0
      exact ⟨_, (Expands.failedPass pass).perform_eq⟩
  | afterPass passed =>
      obtain ⟨_, pass⟩ := exists_expands (.forest _ _) passed 0
      obtain ⟨_, rest⟩ := exists_expands _ failed 0
      exact ⟨_, (Expands.pass pass rest).perform_eq⟩
  | insertion loaded =>
      obtain ⟨_, pass⟩ := exists_expands _ failed 0
      exact ⟨_, (Expands.failedInsertion loaded pass).perform_eq⟩
  | afterInsertion loaded passed =>
      obtain ⟨_, pass⟩ := exists_expands (.forest _ _) passed 0
      obtain ⟨_, rest⟩ := exists_expands _ failed 0
      exact ⟨_, (Expands.insertion loaded pass rest).perform_eq⟩

/-- What fails on behalf of a moment, however far from it, fails the task of that moment. -/
theorem Reaches.failed
    (reaches : interpreter.Reaches earlier later)
    {problem : LocatedProblem}
    {after : Progress}
    (failed : interpreter.perform later.task later.progress = .error problem after) :
    ∃ after', interpreter.perform earlier.task earlier.progress = .error problem after' := by
  induction reaches using Relation.ReflTransGen.head_induction_on with
  | refl =>
      exact ⟨after, failed⟩
  | head first _ inductionHypothesis =>
      obtain ⟨_, failed⟩ := inductionHypothesis
      exact first.failed failed

/-- Whether a moment leads to one that meets a problem in its own right. -/
def Meets (interpreter : Interpreter) (start : Moment) (problem : LocatedProblem) : Prop :=
  ∃ moment, interpreter.Reaches start moment ∧ interpreter.Fails moment problem

/-- What a moment leads to, the one before it leads to. -/
theorem Meets.before
    {problem : LocatedProblem}
    (meets : interpreter.Meets later problem)
    (proceeds : interpreter.Proceeds earlier later) :
    interpreter.Meets earlier problem := by
  obtain ⟨moment, reaches, fails⟩ := meets
  exact ⟨moment, .head proceeds reaches, fails⟩

/-- A task that fails leads to what meets the problem in its own right. -/
theorem Expands.meets
    {active : Nat}
    {task : Task}
    {progress after : Progress}
    {events : List Event}
    {outcome : Outcome}
    {problem : LocatedProblem}
    (expands : interpreter.Expands active task progress events outcome)
    (failed : outcome = .error problem after) :
    interpreter.Meets ⟨task, progress⟩ problem := by
  induction expands generalizing after with
  | nothing | finished =>
      cases failed
  | unpaid charged =>
      cases failed
      exact ⟨_, .refl, .unpaid charged⟩
  | stopped charged _ first =>
      cases failed
      exact (first rfl).before (.visit charged)
  | visited charged firstRun _ _ others =>
      obtain ⟨before, failed⟩ := Outcome.adapt_eq_error failed
      exact (others failed).before (.others charged firstRun.perform_eq)
  | unfilled isTag prepared =>
      cases failed
      exact ⟨_, .refl, .unfilled isTag prepared⟩
  | tag isTag prepared _ children =>
      obtain ⟨before, failed⟩ := Outcome.adapt_eq_error failed
      exact (children failed).before (.inside isTag prepared)
  | unknown isCall found =>
      cases failed
      exact ⟨_, .refl, .unknown isCall found⟩
  | refused isCall found deep =>
      cases failed
      exact ⟨_, .refl, .refused isCall found deep⟩
  | unprepared isCall found shallow prepared =>
      cases failed
      exact ⟨_, .refl, .unprepared isCall found shallow prepared⟩
  | called isCall found shallow prepared _ body =>
      obtain ⟨before, failed⟩ := Outcome.adapt_eq_error failed
      exact (body failed).before (.call isCall found shallow prepared)
  | unpaidIteration charged =>
      cases failed
      exact ⟨_, .refl, .unpaidIteration charged⟩
  | iteration charged _ rest =>
      exact (rest failed).before (.iteration charged)
  | failedStep isStep ran =>
      cases failed
      exact ⟨_, .refl, .step isStep ran⟩
  | step isStep ran _ rest =>
      exact (rest failed).before (.step isStep ran)
  | failedPass _ pass =>
      cases failed
      exact (pass rfl).before .pass
  | pass passRun _ _ rest =>
      exact (rest failed).before (.afterPass passRun.perform_eq)
  | unloaded loaded =>
      cases failed
      exact ⟨_, .refl, .unloaded loaded⟩
  | failedInsertion loaded _ pass =>
      cases failed
      exact (pass rfl).before (.insertion loaded)
  | insertion loaded passRun _ _ rest =>
      exact (rest failed).before (.afterInsertion loaded passRun.perform_eq)

/-- A task fails with the problems that it leads to, and with no other. -/
theorem exists_perform_eq_error_iff
    {start : Moment}
    {problem : LocatedProblem} :
    (∃ after, interpreter.perform start.task start.progress = .error problem after) ↔
      interpreter.Meets start problem := by
  constructor
  · rintro ⟨after, failed⟩
    obtain ⟨events, expands⟩ := exists_expands _ failed 0
    exact expands.meets rfl
  · rintro ⟨moment, reaches, fails⟩
    obtain ⟨after, failed⟩ := fails.failed
    exact reaches.failed failed

/-- From one moment to the next, an expansion with the vocabulary of the language stays one with
its macros. -/
theorem Proceeds.isLawful
    (proceeds : interpreter.Proceeds earlier later)
    (standard : interpreter.vocabulary = .standard)
    (lawful : earlier.IsLawful) :
    later.IsLawful := by
  obtain ⟨⟨taken, task⟩, defines⟩ := lawful
  cases proceeds with
  | visit charged =>
      obtain ⟨_, rfl⟩ := charge_eq_ok charged
      exact ⟨⟨0, trivial⟩, defines⟩
  | others charged first =>
      obtain ⟨_, rfl⟩ := charge_eq_ok charged
      obtain ⟨_, visited⟩ := exists_expands (.node _ _) first 0
      exact ⟨⟨0, trivial⟩, visited.definesUserMacros standard 0 trivial defines⟩
  | inside isTag prepared =>
      exact ⟨⟨0, trivial⟩, (onlyLogs_prepareTag _ _).definesUserMacros prepared defines⟩
  | call isCall found shallow prepared =>
      have steps := (isStandard_of_findMacro? standard defines found).isLawful
      have definesReady := (onlyLogs_prepareCall _ _ _ _).definesUserMacros prepared defines
      exact .ofScript (steps _ _ _) definesReady
  | iteration charged =>
      obtain ⟨_, rfl⟩ := charge_eq_ok charged
      obtain ⟨taken, steps, _⟩ := task
      exact .ofScript steps defines
  | step isStep ran =>
      obtain ⟨taken, steps, _⟩ := task
      obtain ⟨stepsLeft, definesLeft⟩ := isLawful_of_step isStep steps defines ran
      exact .ofScript stepsLeft definesLeft
  | pass =>
      exact ⟨⟨0, trivial⟩, defines⟩
  | afterPass passed =>
      obtain ⟨taken, ⟨_, steps⟩, _⟩ := task
      obtain ⟨_, pass⟩ := exists_expands (.forest _ _) passed 0
      exact .ofScript (steps _ _) (pass.definesUserMacros standard 0 trivial defines)
  | insertion loaded =>
      obtain ⟨_, _, rfl⟩ := loadTemplate_eq_ok loaded
      exact ⟨⟨0, trivial⟩, defines⟩
  | afterInsertion loaded passed =>
      obtain ⟨taken, ⟨_, steps⟩, _⟩ := task
      obtain ⟨_, _, rfl⟩ := loadTemplate_eq_ok loaded
      obtain ⟨_, pass⟩ := exists_expands (.forest _ _) passed 0
      exact .ofScript (steps _) (pass.definesUserMacros standard 0 trivial defines)

theorem Reaches.isLawful
    (reaches : interpreter.Reaches earlier later)
    (standard : interpreter.vocabulary = .standard)
    (lawful : earlier.IsLawful) :
    later.IsLawful := by
  induction reaches with
  | refl =>
      exact lawful
  | tail _ last inductionHypothesis =>
      exact last.isLawful standard inductionHypothesis

end Interpreter

/-- What an interpreter is asked for: the document of a source, or that of a template. -/
inductive Request where
  | document (source : String)
  | template (path : String)

namespace Interpreter

/-- The run that answers a request. -/
def answer (interpreter : Interpreter) : Request → Run Document
  | .document source => interpreter.parse source
  | .template path => interpreter.parseTemplate path

/-- The moment in which the expansion for a request begins, once its markup has been read. -/
inductive Opens (interpreter : Interpreter) : Request → Moment → Prop where
  | document {source nodes}
      (read : forestOfSource interpreter.settings.marker source = .ok nodes) :
      Opens interpreter (.document source) ⟨.forest nodes .empty, interpreter.beginning []⟩
  /-- A template is being expanded from the beginning on. -/
  | template {path source nodes}
      (found : interpreter.templates path = some source)
      (read : forestOfSource interpreter.settings.marker source = .ok nodes) :
      Opens interpreter (.template path) ⟨.forest nodes .empty, interpreter.beginning [path]⟩

/-- A run whose nodes cannot be expanded fails as their expansion does. -/
theorem runWithin_eq_error
    {interpreter : Interpreter}
    {imports : List String}
    {source : String}
    {nodes : List Node}
    {problem : LocatedProblem}
    {after : Progress}
    (read : forestOfSource interpreter.settings.marker source = .ok nodes)
    (failed :
      interpreter.expandNodes nodes .empty (interpreter.beginning imports) =
        .error problem after) :
    (interpreter.runWithin imports source).result = .error problem := by
  simp only [runWithin, read, runExpansion, expandDocument, Expansion.bind_apply, failed]

/-- An expansion fails where its nodes cannot be expanded. -/
theorem runExpansion_eq_error
    {interpreter : Interpreter}
    {imports : List String}
    {nodes : List Node}
    {problem : LocatedProblem}
    {journal : Journal}
    (failed : interpreter.runExpansion imports nodes = ⟨.error problem, journal⟩) :
    ∃ after,
      interpreter.expandNodes nodes .empty (interpreter.beginning imports) =
        .error problem after := by
  unfold runExpansion expandDocument at failed
  rw [Expansion.bind_apply] at failed
  cases expanded : interpreter.expandNodes nodes .empty (interpreter.beginning imports) with
  | ok value after =>
      rw [expanded] at failed
      cases failed
  | error problem' after =>
      rw [expanded] at failed
      cases failed
      exact ⟨after, rfl⟩

/-- An expansion that gives nodes and a scope has them from its nodes. -/
theorem exists_expandNodes_of_runExpansion
    {interpreter : Interpreter}
    {imports : List String}
    {nodes : List Node}
    {value : List Node × Scope}
    (ran : (interpreter.runExpansion imports nodes).result.toOption = some value) :
    ∃ after,
      interpreter.expandNodes nodes .empty (interpreter.beginning imports) = .ok value after := by
  unfold runExpansion at ran
  split at ran
  · rename_i succeeded
    obtain ⟨value, after, expanded, noted⟩ := bind_eq_ok succeeded
    cases noted
    cases ran
    exact ⟨after, expanded⟩
  · cases ran

/-- A run fails as its expansion does. -/
theorem Opens.answer_eq_error
    {interpreter : Interpreter}
    {request : Request}
    {opening : Moment}
    {problem : LocatedProblem}
    {after : Progress}
    (opens : interpreter.Opens request opening)
    (failed : interpreter.perform opening.task opening.progress = .error problem after) :
    (interpreter.answer request).result = .error problem := by
  cases opens with
  | document read =>
      exact runWithin_eq_error read failed
  | template found read =>
      simp only [answer, parseTemplate, found]
      exact runWithin_eq_error read failed

end Interpreter

end WidgetMarkup
