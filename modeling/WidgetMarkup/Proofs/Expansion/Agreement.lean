import WidgetMarkup.Proofs.Expansion.Histories

namespace WidgetMarkup

open Markup
open Expansion (Event Task Outcome Restores Restored bind_apply get_bind_apply)

/-!
# Histories agree with the engine

The engine, freed of its levels, takes a task apart as the rules do. So each derivation has the
outcome of the engine, and the engine's way through a task is a derivation.
-/

namespace Interpreter

variable {interpreter : Interpreter}

/-- Expanding one node that is paid for. -/
def expandNode
    (interpreter : Interpreter)
    (node : Node)
    (scope : Scope) :
    Expansion (List Node × Scope) := do
  let progress ← get
  if interpreter.isMacroCall progress node then
    interpreter.expandCall node scope
  else
    let expanded ← interpreter.expandTag interpreter.expandCall node scope
    return ([expanded], scope)

/-- What the engine makes of a task. -/
def perform (interpreter : Interpreter) : Task → Expansion (List Node × Scope)
  | .forest nodes scope => interpreter.expandNodes nodes scope
  | .node node scope => interpreter.expandNode node scope
  | .script _ script => interpreter.runScript interpreter.expandNodes script

theorem expandNodes_nil
    (scope : Scope) :
    interpreter.expandNodes [] scope = pure ([], scope) := by
  rw [expandNodes_eq, expandForest]

/-- Nodes are expanded one after another, each after it has been paid for. -/
theorem expandNodes_cons
    (node : Node)
    (rest : List Node)
    (scope : Scope) :
    interpreter.expandNodes (node :: rest) scope =
      (do
        interpreter.charge
        let first ← interpreter.expandNode node scope
        let others ← interpreter.expandNodes rest first.2
        return (first.1 ++ others.1, others.2)) := by
  rw [expandNodes_eq, expandForest]
  unfold expandNode
  simp only [bind_assoc, expandNodes_eq]
  refine bind_congr fun _ => bind_congr fun progress => ?_
  split
  · rfl
  · simp only [bind_assoc, pure_bind, List.singleton_append]

/-- Nodes that are expanded: the first has been paid for and expanded, and then the others. -/
theorem expandNodes_cons_eq_ok
    {node : Node}
    {rest : List Node}
    {scope : Scope}
    {progress after : Progress}
    {value : List Node × Scope}
    (ran : interpreter.expandNodes (node :: rest) scope progress = .ok value after) :
    ∃ paid first between others,
      interpreter.charge progress = .ok () paid ∧
        interpreter.expandNode node scope paid = .ok first between ∧
        interpreter.expandNodes rest first.2 between = .ok others after ∧
        value = (first.1 ++ others.1, others.2) := by
  rw [expandNodes_cons] at ran
  obtain ⟨_, paid, charged, ran⟩ := bind_eq_ok ran
  obtain ⟨first, between, visited, ran⟩ := bind_eq_ok ran
  obtain ⟨others, _, ended, ran⟩ := bind_eq_ok ran
  cases ran
  exact ⟨paid, first, between, others, charged, visited, ended, rfl⟩

/-- Nodes are expanded after others in the scope that these leave. -/
theorem expandNodes_append
    (earlier later : List Node)
    (scope : Scope) :
    interpreter.expandNodes (earlier ++ later) scope =
      (do
        let first ← interpreter.expandNodes earlier scope
        let others ← interpreter.expandNodes later first.2
        return (first.1 ++ others.1, others.2)) := by
  induction earlier generalizing scope with
  | nil =>
      simp only [List.nil_append, expandNodes_nil, pure_bind]
      exact (bind_pure _).symm
  | cons node rest inductionHypothesis =>
      simp only [List.cons_append, expandNodes_cons, inductionHypothesis, bind_assoc, pure_bind,
        List.append_assoc]

/-- A tag is prepared and its children are expanded, inside. -/
theorem expandNode_of_tag
    {progress : Progress}
    {node : Node}
    (isTag : interpreter.isMacroCall progress node = false)
    (scope : Scope) :
    interpreter.expandNode node scope progress =
      Expansion.within (progress.path.child node.name (node.attribute? "id"))
        (do
          let filled ← interpreter.prepareTag node scope
          let children ← interpreter.expandNodes node.children scope.child
          return ([⟨node.name, false, filled.1, children.1, filled.2, node.position⟩], scope))
        progress := by
  rw [expandNode, get_bind_apply, if_neg (by simp [isTag]), expandTag_eq, bind_assoc,
    get_bind_apply, bind_apply, Expansion.within, Expansion.within]
  simp only [bind_apply, expandNodes_eq]
  cases interpreter.prepareTag node scope
      { progress with path := progress.path.child node.name (node.attribute? "id") } with
  | ok filled ready =>
      simp only
      cases interpreter.expandForest interpreter.expandCall node.children scope.child ready <;> rfl
  | error problem after =>
      rfl

/-- A macro call is looked up, let in or turned away, prepared and carried out, inside. -/
theorem expandNode_of_call
    {progress : Progress}
    {node : Node}
    (isCall : interpreter.isMacroCall progress node = true)
    (scope : Scope) :
    interpreter.expandNode node scope progress =
      Expansion.within (interpreter.macroPath progress.path node.name)
        (match interpreter.findMacro? progress node.name with
        | none => Expansion.fail (.unknownMacro node.name)
        | some rule =>
            if progress.depth < interpreter.settings.maxDepth then do
              let call ← interpreter.prepareCall rule node scope
                (interpreter.macroPath progress.path node.name)
              Expansion.calling
                (interpreter.runScript interpreter.expandNodes
                  (rule.script interpreter.sources call scope))
            else
              Expansion.fail (.tooDeep interpreter.settings.maxDepth))
        progress := by
  rw [expandNode, get_bind_apply, if_pos isCall, expandCall_apply, callMacro_eq, get_bind_apply]
  cases interpreter.findMacro? progress node.name with
  | none =>
      rfl
  | some rule =>
      by_cases shallow : progress.depth < interpreter.settings.maxDepth
      · simp only [if_pos shallow]
      · simp only [if_neg shallow]

/-- A step without any nodes is taken in the same way however nodes are expanded. -/
theorem runScript_of_step
    {script : Script}
    {inner : Expansion Script}
    (isStep : interpreter.step? script = some inner)
    (expand : Expander) :
    interpreter.runScript expand script =
      inner >>= fun next => interpreter.runScript expand next := by
  cases script <;> simp only [step?, Option.some.injEq, reduceCtorEq] at isStep <;> subst isStep
  case fail problem =>
    rfl
  all_goals
    rw [runScript]
    simp only [bind_assoc, pure_bind, bind_map_left]

theorem restores_perform
    (task : Task) :
    Restores (interpreter.perform task) := by
  cases task with
  | forest nodes scope =>
      exact restores_expandNodes nodes scope
  | node node scope =>
      have callRestores (node : Node) (scope : Scope) :
          Restores (interpreter.expandCall node scope) := by
        refine Restores.get.bind fun progress => ?_
        refine restores_callMacro (fun expander isExpander => ?_) node scope
        split at isExpander <;> cases isExpander
        exact restores_expandNodes
      refine Restores.get.bind fun progress => ?_
      split
      · exact callRestores node scope
      · exact (restores_expandTag callRestores node scope).bind fun _ => .pure _
  | script rule script =>
      exact restores_runScript restores_expandNodes script

/-- A derivation has the outcome of the engine. -/
theorem Expands.perform_eq
    {active : Nat}
    {task : Task}
    {progress : Progress}
    {events : List Event}
    {outcome : Outcome}
    (expands : interpreter.Expands active task progress events outcome) :
    interpreter.perform task progress = outcome := by
  induction expands with
  | nothing =>
      rw [perform, expandNodes_nil]
      rfl
  | unpaid charged =>
      rw [perform, expandNodes_cons, bind_apply, charged]
  | stopped charged _ first =>
      rw [perform] at first
      simp only [perform, expandNodes_cons, bind_apply, charged, first]
  | visited charged _ _ first others =>
      simp only [perform] at first others
      simp only [perform, expandNodes_cons, bind_apply, charged, first, others]
      split <;> rfl
  | unfilled isTag prepared =>
      rw [perform, expandNode_of_tag isTag, Expansion.within, bind_apply, prepared]
  | tag isTag prepared _ children =>
      rw [perform] at children
      rw [perform, expandNode_of_tag isTag, Expansion.within, bind_apply, prepared]
      simp only [bind_apply, children]
      split <;> rename_i ran <;> split at ran <;> cases ran <;> rfl
  | unknown isCall found =>
      rw [perform, expandNode_of_call isCall, found]
      rfl
  | refused isCall found deep =>
      rw [perform, expandNode_of_call isCall, found]
      simp only [if_neg (Nat.not_lt.2 deep)]
      rfl
  | unprepared isCall found shallow prepared =>
      rw [perform, expandNode_of_call isCall, found]
      simp only [if_pos shallow, Expansion.within, bind_apply, prepared]
  | called isCall found shallow prepared _ body =>
      rw [perform] at body
      rw [perform, expandNode_of_call isCall, found]
      simp only [if_pos shallow, Expansion.within, bind_apply, prepared, Expansion.calling, body]
      split <;> rename_i ran <;> split at ran <;> cases ran <;> rfl
  | finished =>
      rfl
  | unpaidIteration charged =>
      rw [perform, runScript, bind_apply, charged]
  | iteration charged _ rest =>
      rw [perform] at rest
      simp only [perform, runScript, bind_apply, charged, rest]
  | failedStep isStep ran =>
      rw [perform, runScript_of_step isStep, bind_apply, ran]
  | step isStep ran _ rest =>
      rw [perform] at rest
      simp only [perform, runScript_of_step isStep, bind_apply, ran, rest]
  | failedPass _ pass =>
      rw [perform] at pass
      simp only [perform, runScript, bind_apply, pass]
  | pass _ _ pass rest =>
      simp only [perform] at pass rest
      simp only [perform, runScript, bind_apply, pass, rest]
  | unloaded loaded =>
      simp only [perform, runScript, insertTemplate_eq, bind_apply, loaded]
  | failedInsertion loaded _ pass =>
      rw [perform] at pass
      simp only [perform, runScript, insertTemplate_eq, bind_apply, loaded, Expansion.importing,
        pass]
  | insertion loaded _ _ pass rest =>
      simp only [perform] at pass rest
      simp only [perform, runScript, insertTemplate_eq, bind_apply, loaded, Expansion.importing,
        pass]
      exact rest

/-- A derivation restores the state. -/
theorem Expands.restored
    {active : Nat}
    {task : Task}
    {progress : Progress}
    {events : List Event}
    {outcome : Outcome}
    (expands : interpreter.Expands active task progress events outcome) :
    Restored progress outcome.state := by
  have restored := @restores_perform interpreter task progress
  rw [Expansion.stateAfter, expands.perform_eq] at restored
  cases outcome <;> exact restored

/-- Whether a task comes to an end in a state: it has a derivation. -/
def Ends
    (interpreter : Interpreter)
    (active : Nat)
    (task : Task)
    (progress : Progress) :
    Prop :=
  ∃ events outcome, interpreter.Expands active task progress events outcome

/-- A step without any nodes restores the state. -/
theorem restores_step
    {script : Script}
    {inner : Expansion Script}
    (isStep : interpreter.step? script = some inner) :
    Restores inner := by
  cases script <;> simp only [step?, Option.some.injEq, reduceCtorEq] at isStep <;> subst isStep
  case fail problem =>
    exact .fail problem
  case interpolate raw scope next =>
    exact ((interpreter.onlyLogs_interpolate scope raw).map next).restores
  case evaluate source scope next =>
    exact ((interpreter.onlyLogs_evaluate scope source).map next).restores
  case invoke reference next =>
    exact ((interpreter.onlyLogs_invoke reference).map next).restores
  case define name interpolates body next =>
    exact (Expansion.OnlyLogs.record _ _).restores.bind fun _ =>
      (Restores.defining name ⟨interpolates, body⟩).bind fun _ => .pure _
  case addDefault tag entry next =>
    exact (Restores.styling tag entry).bind fun _ => .pure _
  case record level text next =>
    exact (Expansion.OnlyLogs.record level text).restores.bind fun _ => .pure _

section

variable {active depth : Nat}

/-- A script whose step is taken ends if what is left of it does. -/
theorem ends_of_step
    {rule : MacroRule}
    {script : Script}
    {inner : Expansion Script}
    {progress : Progress}
    (isStep : interpreter.step? script = some inner)
    (rest :
      ∀ next between, inner progress = .ok next between → between.depth = progress.depth →
        interpreter.Ends active (.script rule next) between) :
    interpreter.Ends active (.script rule script) progress := by
  cases ran : inner progress with
  | error problem after =>
      exact ⟨_, _, .failedStep isStep ran⟩
  | ok next between =>
      obtain ⟨events, outcome, expands⟩ :=
        rest next between ran ((restores_step isStep).of_ok ran).depth
      exact ⟨_, _, .step isStep ran expands⟩

/-- Scripts end where expanding nodes ends. -/
theorem ends_script
    (forests :
      ∀ nodes scope progress, progress.depth = depth →
        interpreter.Ends active (.forest nodes scope) progress)
    (rule : MacroRule)
    (script : Script)
    (progress : Progress)
    (atDepth : progress.depth = depth) :
    interpreter.Ends active (.script rule script) progress := by
  induction script generalizing progress with
  | finish nodes scope =>
      exact ⟨_, _, .finished⟩
  | fail problem =>
      exact ends_of_step rfl fun next between ran _ => by cases ran
  | charge next inductionHypothesis =>
      cases charged : interpreter.charge progress with
      | error problem after =>
          exact ⟨_, _, .unpaidIteration charged⟩
      | ok _ paid =>
          obtain ⟨events, outcome, rest⟩ := inductionHypothesis paid
            (((Restores.charge _).of_ok charged).depth.trans atDepth)
          exact ⟨_, _, .iteration charged rest⟩
  | expand nodes scope next inductionHypothesis =>
      obtain ⟨events, outcome, pass⟩ := forests nodes scope progress atDepth
      cases outcome with
      | error problem after =>
          exact ⟨_, _, .failedPass pass⟩
      | ok result between =>
          obtain ⟨events', outcome, rest⟩ := inductionHypothesis result.1 result.2 between
            (pass.restored.depth.trans atDepth)
          exact ⟨_, _, .pass pass rest⟩
  | insertTemplate template marker content scope next inductionHypothesis =>
      cases loaded : interpreter.loadTemplate template progress with
      | error problem after =>
          exact ⟨_, _, .unloaded loaded⟩
      | ok nodes ready =>
          have readied := ((restores_loadTemplate template).of_ok loaded).depth
          obtain ⟨events, outcome, pass⟩ :=
            forests (Node.replaceMarkers marker content nodes) scope.child
              { ready with imports := ready.imports ++ [template] } (readied.trans atDepth)
          cases outcome with
          | error problem after =>
              exact ⟨_, _, .failedInsertion loaded pass⟩
          | ok result between =>
              obtain ⟨events', outcome, rest⟩ := inductionHypothesis result.1
                { between with imports := between.imports.dropLast }
                (pass.restored.depth.trans (readied.trans atDepth))
              exact ⟨_, _, .insertion loaded pass rest⟩
  | interpolate raw scope next inductionHypothesis
  | evaluate source scope next inductionHypothesis
  | invoke reference next inductionHypothesis =>
      refine ends_of_step rfl fun next' between ran stays => ?_
      obtain ⟨value, _, rfl⟩ := Expansion.map_eq_ok ran
      exact inductionHypothesis value between (stays.trans atDepth)
  | define name interpolates body next _ inductionHypothesis
  | addDefault tag entry next inductionHypothesis
  | record level text next inductionHypothesis =>
      refine ends_of_step rfl fun next' between ran stays => ?_
      cases ran
      exact inductionHypothesis _ (stays.trans atDepth)

theorem ends_call
    (scripts :
      depth < interpreter.settings.maxDepth →
      ∀ rule script progress, progress.depth = depth + 1 →
        interpreter.Ends (active + 1) (.script rule script) progress)
    {node : Node}
    {progress : Progress}
    (isCall : interpreter.isMacroCall progress node = true)
    (scope : Scope)
    (atDepth : progress.depth = depth) :
    interpreter.Ends active (.node node scope) progress := by
  cases found : interpreter.findMacro? progress node.name with
  | none =>
      exact ⟨_, _, .unknown isCall found⟩
  | some rule =>
      by_cases shallow : progress.depth < interpreter.settings.maxDepth
      · cases prepared :
          interpreter.prepareCall rule node scope (interpreter.macroPath progress.path node.name)
            { progress with path := interpreter.macroPath progress.path node.name } with
        | error problem after =>
            exact ⟨_, _, .unprepared isCall found shallow prepared⟩
        | ok call ready =>
            have readied := ((onlyLogs_prepareCall rule node scope _).restores.of_ok prepared).depth
            obtain ⟨events, outcome, body⟩ :=
              scripts (atDepth ▸ shallow) rule (rule.script interpreter.sources call scope)
                { ready with depth := ready.depth + 1 }
                (congrArg (· + 1) (readied.trans atDepth))
            exact ⟨_, _, .called isCall found shallow prepared body⟩
      · exact ⟨_, _, .refused isCall found (Nat.le_of_not_lt shallow)⟩

mutual

/-- Expanding nodes ends if scripts end inside their macro calls. -/
theorem ends_forest
    (scripts :
      depth < interpreter.settings.maxDepth →
      ∀ rule script progress, progress.depth = depth + 1 →
        interpreter.Ends (active + 1) (.script rule script) progress) :
    ∀ nodes scope progress, progress.depth = depth →
      interpreter.Ends active (.forest nodes scope) progress
  | [], scope, progress, _ => ⟨_, _, .nothing⟩
  | node :: rest, scope, progress, atDepth => by
      cases charged : interpreter.charge progress with
      | error problem after =>
          exact ⟨_, _, .unpaid charged⟩
      | ok _ paid =>
          have paidDepth := ((Restores.charge _).of_ok charged).depth.trans atDepth
          obtain ⟨events, outcome, first⟩ := ends_node scripts node scope paid paidDepth
          cases outcome with
          | error problem after =>
              exact ⟨_, _, .stopped charged first⟩
          | ok result between =>
              obtain ⟨events', outcome, others⟩ := ends_forest scripts rest result.2 between
                (first.restored.depth.trans paidDepth)
              exact ⟨_, _, .visited charged first others⟩

theorem ends_node
    (scripts :
      depth < interpreter.settings.maxDepth →
      ∀ rule script progress, progress.depth = depth + 1 →
        interpreter.Ends (active + 1) (.script rule script) progress) :
    ∀ node scope progress, progress.depth = depth →
      interpreter.Ends active (.node node scope) progress
  | ⟨name, isMacro, attributes, children, text, position⟩, scope, progress, atDepth => by
      let node : Node := ⟨name, isMacro, attributes, children, text, position⟩
      cases isCall : interpreter.isMacroCall progress node with
      | true =>
          exact ends_call scripts isCall scope atDepth
      | false =>
          cases prepared :
            interpreter.prepareTag node scope
              { progress with path := progress.path.child name (node.attribute? "id") } with
          | error problem after =>
              exact ⟨_, _, .unfilled isCall prepared⟩
          | ok filled ready =>
              have readied := ((onlyLogs_prepareTag node scope).restores.of_ok prepared).depth
              obtain ⟨events, outcome, expands⟩ :=
                ends_forest scripts children scope.child ready (readied.trans atDepth)
              exact ⟨_, _, .tag isCall prepared expands⟩

end

end

/--
Every task ends in every state. The nodes of a macro call need not be smaller than the call, but
they are expanded deeper, and there is only so much depth to go.
-/
theorem ends
    (active : Nat)
    (task : Task)
    (progress : Progress) :
    interpreter.Ends active task progress := by
  have forests (left : Nat) :
      ∀ depth active, interpreter.settings.maxDepth - depth = left →
        ∀ nodes scope progress, progress.depth = depth →
          interpreter.Ends active (.forest nodes scope) progress := by
    induction left with
    | zero =>
        intro depth active none
        exact ends_forest fun shallow => by omega
    | succ left inductionHypothesis =>
        intro depth active some
        exact ends_forest fun _ =>
          ends_script (inductionHypothesis (depth + 1) (active + 1) (by omega))
  have scripts (depth active : Nat) :
      ∀ rule script progress, progress.depth = depth →
        interpreter.Ends active (.script rule script) progress :=
    ends_script (forests _ depth active rfl)
  cases task with
  | forest nodes scope =>
      exact forests _ progress.depth active rfl nodes scope progress rfl
  | node node scope =>
      exact ends_node (fun _ => scripts (progress.depth + 1) (active + 1)) node scope progress rfl
  | script rule script =>
      exact scripts progress.depth active rule script progress rfl

/-- The engine's outcome of a task has a derivation. -/
theorem exists_expands_perform
    (active : Nat)
    (task : Task)
    (progress : Progress) :
    ∃ events,
      interpreter.Expands active task progress events (interpreter.perform task progress) := by
  obtain ⟨events, outcome, expands⟩ := interpreter.ends active task progress
  exact ⟨events, expands.perform_eq ▸ expands⟩

end Interpreter

end WidgetMarkup
