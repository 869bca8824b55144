import WidgetMarkup.Proofs.Expansion.Levels

namespace WidgetMarkup

open Markup

/-!
# Histories of expansions

An expansion is described here by rules that know neither levels nor fuel: each rule says what
happens to a task in a state, by which events, and with which outcome. A derivation is finite, so
to have one is to come to an end. Every task has one in every state, and all of them agree with
the engine.
-/

namespace Expansion

/-- What happens in an expansion that its limits are about. -/
inductive Event where
  /-- A node is visited, after it has been paid for. -/
  | visit (node : Node)
  /-- A repetition begins, after it has been paid for. -/
  | iteration
  /-- Nodes are expanded on behalf of a call of a macro. -/
  | pass (rule : MacroRule)
  /-- A macro call is let in; it is the last of so many that are going on. -/
  | call (node : Node) (active : Nat)
  /-- A macro call is turned away, because so many are going on already. -/
  | refusal (node : Node) (active : Nat)

/-- What an expansion has to do: expand nodes, expand one node that is paid for, or go on with the
script of a macro. -/
inductive Task where
  | forest (nodes : List Node) (scope : Scope)
  | node (node : Node) (scope : Scope)
  | script (rule : MacroRule) (script : Script)

/-- What comes of a task: nodes and the scope that they leave, or a problem, and the state. -/
abbrev Outcome := EStateM.Result LocatedProblem Progress (List Node × Scope)

namespace Outcome

/-- The outcome with what it gives and the state changed. -/
def adapt
    (give : List Node × Scope → List Node × Scope)
    (restore : Progress → Progress) :
    Outcome → Outcome
  | .ok value after => .ok (give value) (restore after)
  | .error problem after => .error problem (restore after)

/-- The state behind an outcome. -/
def state : Outcome → Progress
  | .ok _ after => after
  | .error _ after => after

@[simp] theorem state_adapt
    (give : List Node × Scope → List Node × Scope)
    (restore : Progress → Progress)
    (outcome : Outcome) :
    (outcome.adapt give restore).state = restore outcome.state := by
  cases outcome <;> rfl

/-- A changed outcome fails as the outcome does. -/
theorem adapt_eq_error
    {give : List Node × Scope → List Node × Scope}
    {restore : Progress → Progress}
    {outcome : Outcome}
    {problem : LocatedProblem}
    {after : Progress}
    (failed : outcome.adapt give restore = .error problem after) :
    ∃ before, outcome = .error problem before := by
  cases outcome with
  | ok value before =>
      cases failed
  | error problem' before =>
      cases failed
      exact ⟨before, rfl⟩

/-- A changed outcome succeeds as the outcome does. -/
theorem adapt_eq_ok
    {give : List Node × Scope → List Node × Scope}
    {restore : Progress → Progress}
    {outcome : Outcome}
    {value : List Node × Scope}
    {after : Progress}
    (succeeded : outcome.adapt give restore = .ok value after) :
    ∃ value' before, outcome = .ok value' before ∧ give value' = value := by
  cases outcome with
  | ok value' before =>
      cases succeeded
      exact ⟨value', before, rfl, rfl⟩
  | error problem before =>
      cases succeeded

/-- What is seen of an outcome that succeeds. -/
def seen? {α : Type} (view : List Node × Scope → Progress → α) : Outcome → Option α
  | .ok value after => some (view value after)
  | .error _ _ => none

/-- An outcome of which something is seen succeeds. -/
theorem exists_ok_of_seen
    {α : Type}
    {view : List Node × Scope → Progress → α}
    {outcome : Outcome}
    {seen : α}
    (isSeen : outcome.seen? view = some seen) :
    ∃ value after, outcome = .ok value after ∧ view value after = seen := by
  cases outcome with
  | ok value after =>
      exact ⟨value, after, rfl, Option.some.inj isSeen⟩
  | error problem after =>
      cases isSeen

/-- What is seen of the problem of an outcome that fails. -/
def seenProblem? {α : Type} (view : LocatedProblem → α) : Outcome → Option α
  | .ok _ _ => none
  | .error problem _ => some (view problem)

/-- An outcome of whose problem something is seen fails. -/
theorem exists_error_of_seenProblem
    {α : Type}
    {view : LocatedProblem → α}
    {outcome : Outcome}
    {seen : α}
    (isSeen : outcome.seenProblem? view = some seen) :
    ∃ problem after, outcome = .error problem after ∧ view problem = seen := by
  cases outcome with
  | ok value after =>
      cases isSeen
  | error problem after =>
      exact ⟨problem, after, rfl, Option.some.inj isSeen⟩

end Outcome

end Expansion

open Expansion (Event Task Outcome Restores Restored stateAfter)

namespace Interpreter

/-- The steps of a script in which no nodes are expanded, each giving the script that is left. -/
def step? (interpreter : Interpreter) : Script → Option (Expansion Script)
  | .fail problem => some (Expansion.fail problem)
  | .interpolate raw scope next => some (next <$> interpreter.interpolate scope raw)
  | .evaluate source scope next => some (next <$> interpreter.evaluate scope source)
  | .invoke reference next =>
      some (next <$> Expansion.logged id (interpreter.actions.invoke reference))
  | .define name interpolates body next =>
      some do
        Expansion.record .debug ("defining macro `" ++ name ++ "`")
        modify fun progress =>
          { progress with macros := progress.macros.insert name ⟨interpolates, body⟩ }
        return next
  | .addDefault tag entry next =>
      some do
        modify fun progress => { progress with styles := progress.styles.add tag entry }
        return next
  | .record level text next =>
      some do
        Expansion.record level text
        return next
  | .finish _ _ | .charge _ | .expand _ _ _ | .insertTemplate _ _ _ _ _ => none

/--
What a task leads to while a number of macro calls are going on: the state it begins in, what
happens, and the outcome.
-/
inductive Expands (interpreter : Interpreter) :
    Nat → Task → Progress → List Event → Outcome → Prop where
  /-- No nodes are left. -/
  | nothing {active scope progress} :
      Expands interpreter active (.forest [] scope) progress [] (.ok ([], scope) progress)
  /-- The next node cannot be paid for. -/
  | unpaid {active node rest scope progress problem after}
      (charged : interpreter.charge progress = .error problem after) :
      Expands interpreter active (.forest (node :: rest) scope) progress []
        (.error problem after)
  /-- The next node is visited and fails. -/
  | stopped {active node rest scope progress paid events problem after}
      (charged : interpreter.charge progress = .ok () paid)
      (first : Expands interpreter active (.node node scope) paid events (.error problem after)) :
      Expands interpreter active (.forest (node :: rest) scope) progress (.visit node :: events)
        (.error problem after)
  /-- The next node is visited, and then the others. -/
  | visited
      {active node rest scope progress paid events expanded left between events' outcome}
      (charged : interpreter.charge progress = .ok () paid)
      (first :
        Expands interpreter active (.node node scope) paid events (.ok (expanded, left) between))
      (others : Expands interpreter active (.forest rest left) between events' outcome) :
      Expands interpreter active (.forest (node :: rest) scope) progress
        (.visit node :: (events ++ events'))
        (outcome.adapt (fun others => (expanded ++ others.1, others.2)) id)
  /-- The values of a tag cannot be filled in. -/
  | unfilled {active node scope progress problem after}
      (isTag : interpreter.isMacroCall progress node = false)
      (prepared :
        interpreter.prepareTag node scope
            { progress with path := progress.path.child node.name (node.attribute? "id") } =
          .error problem after) :
      Expands interpreter active (.node node scope) progress []
        (.error problem { after with path := progress.path })
  /-- A tag keeps its place, and its children are expanded in a scope of their own. -/
  | tag {active node scope progress filled ready events outcome}
      (isTag : interpreter.isMacroCall progress node = false)
      (prepared :
        interpreter.prepareTag node scope
            { progress with path := progress.path.child node.name (node.attribute? "id") } =
          .ok filled ready)
      (children :
        Expands interpreter active (.forest node.children scope.child) ready events outcome) :
      Expands interpreter active (.node node scope) progress events
        (outcome.adapt
          (fun children =>
            ([⟨node.name, false, filled.1, children.1, filled.2, node.position⟩], scope))
          fun after => { after with path := progress.path })
  /-- There is no macro of the name. -/
  | unknown {active node scope progress}
      (isCall : interpreter.isMacroCall progress node = true)
      (found : interpreter.findMacro? progress node.name = none) :
      Expands interpreter active (.node node scope) progress []
        (.error
          ((Problem.unknownMacro node.name).located
            (interpreter.macroPath progress.path node.name))
          progress)
  /-- As many macro calls are going on as there may be. -/
  | refused {active node scope progress rule}
      (isCall : interpreter.isMacroCall progress node = true)
      (found : interpreter.findMacro? progress node.name = some rule)
      (deep : interpreter.settings.maxDepth ≤ progress.depth) :
      Expands interpreter active (.node node scope) progress [.refusal node active]
        (.error
          ((Problem.tooDeep interpreter.settings.maxDepth).located
            (interpreter.macroPath progress.path node.name))
          progress)
  /-- The attributes of a macro call cannot be filled in. -/
  | unprepared {active node scope progress rule problem after}
      (isCall : interpreter.isMacroCall progress node = true)
      (found : interpreter.findMacro? progress node.name = some rule)
      (shallow : progress.depth < interpreter.settings.maxDepth)
      (prepared :
        interpreter.prepareCall rule node scope (interpreter.macroPath progress.path node.name)
            { progress with path := interpreter.macroPath progress.path node.name } =
          .error problem after) :
      Expands interpreter active (.node node scope) progress []
        (.error problem { after with path := progress.path })
  /-- A macro call is let in, and its script is carried out. -/
  | called {active node scope progress rule call ready events outcome}
      (isCall : interpreter.isMacroCall progress node = true)
      (found : interpreter.findMacro? progress node.name = some rule)
      (shallow : progress.depth < interpreter.settings.maxDepth)
      (prepared :
        interpreter.prepareCall rule node scope (interpreter.macroPath progress.path node.name)
            { progress with path := interpreter.macroPath progress.path node.name } =
          .ok call ready)
      (body :
        Expands interpreter (active + 1)
          (.script rule (rule.script interpreter.sources call scope))
          { ready with depth := ready.depth + 1 } events outcome) :
      Expands interpreter active (.node node scope) progress (.call node (active + 1) :: events)
        (outcome.adapt id fun after =>
          { after with depth := after.depth - 1, path := progress.path })
  /-- A script is at its end. -/
  | finished {active rule nodes scope progress} :
      Expands interpreter active (.script rule (.finish nodes scope)) progress []
        (.ok (nodes, scope) progress)
  /-- A repetition cannot be paid for. -/
  | unpaidIteration {active rule next progress problem after}
      (charged : interpreter.charge progress = .error problem after) :
      Expands interpreter active (.script rule (.charge next)) progress [] (.error problem after)
  /-- A repetition is paid for. -/
  | iteration {active rule next progress paid events outcome}
      (charged : interpreter.charge progress = .ok () paid)
      (rest : Expands interpreter active (.script rule next) paid events outcome) :
      Expands interpreter active (.script rule (.charge next)) progress (.iteration :: events)
        outcome
  /-- A step without any nodes fails. -/
  | failedStep {active rule script inner progress problem after}
      (isStep : interpreter.step? script = some inner)
      (ran : inner progress = .error problem after) :
      Expands interpreter active (.script rule script) progress [] (.error problem after)
  /-- A step without any nodes is taken. -/
  | step {active rule script inner progress next between events outcome}
      (isStep : interpreter.step? script = some inner)
      (ran : inner progress = .ok next between)
      (rest : Expands interpreter active (.script rule next) between events outcome) :
      Expands interpreter active (.script rule script) progress events outcome
  /-- Nodes are expanded on behalf of a macro call and fail. -/
  | failedPass {active rule nodes scope next progress events problem after}
      (pass :
        Expands interpreter active (.forest nodes scope) progress events (.error problem after)) :
      Expands interpreter active (.script rule (.expand nodes scope next)) progress
        (.pass rule :: events)
        (.error problem after)
  /-- Nodes are expanded on behalf of a macro call. -/
  | pass {active rule nodes scope next progress events expanded left between events' outcome}
      (pass :
        Expands interpreter active (.forest nodes scope) progress events
          (.ok (expanded, left) between))
      (rest :
        Expands interpreter active (.script rule (next expanded left)) between events' outcome) :
      Expands interpreter active (.script rule (.expand nodes scope next)) progress
        (.pass rule :: (events ++ events')) outcome
  /-- A template cannot be read. -/
  | unloaded {active rule template marker content scope next progress problem after}
      (loaded : interpreter.loadTemplate template progress = .error problem after) :
      Expands interpreter active (.script rule (.insertTemplate template marker content scope next))
        progress [] (.error problem after)
  /-- The nodes of a template are expanded and fail. -/
  | failedInsertion
      {active rule template marker content scope next progress nodes ready events problem after}
      (loaded : interpreter.loadTemplate template progress = .ok nodes ready)
      (pass :
        Expands interpreter active
          (.forest (Node.replaceMarkers marker content nodes) scope.child)
          { ready with imports := ready.imports ++ [template] } events (.error problem after)) :
      Expands interpreter active (.script rule (.insertTemplate template marker content scope next))
        progress (.pass rule :: events)
        (.error problem { after with imports := after.imports.dropLast })
  /-- The nodes of a template are expanded. -/
  | insertion
      {active rule template marker content scope next progress nodes ready events expanded left
        between events' outcome}
      (loaded : interpreter.loadTemplate template progress = .ok nodes ready)
      (pass :
        Expands interpreter active
          (.forest (Node.replaceMarkers marker content nodes) scope.child)
          { ready with imports := ready.imports ++ [template] } events
          (.ok (expanded, left) between))
      (rest :
        Expands interpreter active (.script rule (next expanded))
          { between with imports := between.imports.dropLast } events' outcome) :
      Expands interpreter active (.script rule (.insertTemplate template marker content scope next))
        progress (.pass rule :: (events ++ events')) outcome

end Interpreter

end WidgetMarkup
