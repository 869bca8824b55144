import WidgetMarkup.Proofs.Expansion.Recursion

namespace WidgetMarkup

open Markup
open Expansion (Restores)

/-!
# Expansion without levels

The levels of an expansion are what the macro calls that are going on leave of the greatest depth,
so they need not be handed down: whether a macro call is let in can be told from the depth alone.
-/

namespace Expansion

variable {α β : Type}

/-- Two parts of an expansion that do the same while a number of macro calls are going on. -/
def AgreeAt (depth : Nat) (first second : Expansion α) : Prop :=
  ∀ progress, progress.depth = depth → first progress = second progress

namespace AgreeAt

variable {depth : Nat}

theorem refl
    (inner : Expansion α) :
    AgreeAt depth inner inner :=
  fun _ _ => rfl

/-- What agrees part by part agrees together, if the first part restores the depth. -/
theorem bind
    {first second : Expansion α}
    {next next' : α → Expansion β}
    (agree : AgreeAt depth first second)
    (restores : Restores first)
    (nextAgree : ∀ value, AgreeAt depth (next value) (next' value)) :
    AgreeAt depth (first >>= next) (second >>= next') := by
  intro progress atDepth
  have restored := restores progress
  rw [stateAfter] at restored
  rw [bind_apply, bind_apply, ← agree progress atDepth]
  cases ran : first progress with
  | ok value after =>
      rw [ran] at restored
      exact nextAgree value after (restored.depth.trans atDepth)
  | error problem after =>
      rfl

/-- What goes on in the same way after the same beginning agrees, if the beginning restores. -/
theorem after
    {first : Expansion α}
    {next next' : α → Expansion β}
    (restores : Restores first)
    (nextAgree : ∀ value, AgreeAt depth (next value) (next' value)) :
    AgreeAt depth (first >>= next) (first >>= next') :=
  bind (refl first) restores nextAgree

theorem within
    {first second : Expansion α}
    (agree : AgreeAt depth first second)
    (path : TagPath) :
    AgreeAt depth (Expansion.within path first) (Expansion.within path second) := by
  intro progress atDepth
  rw [Expansion.within, Expansion.within, agree { progress with path } atDepth]

theorem calling
    {first second : Expansion α}
    (agree : AgreeAt (depth + 1) first second) :
    AgreeAt depth (Expansion.calling first) (Expansion.calling second) := by
  intro progress atDepth
  rw [Expansion.calling, Expansion.calling,
    agree { progress with depth := progress.depth + 1 } (congrArg (· + 1) atDepth)]

theorem importing
    {first second : Expansion α}
    (agree : AgreeAt depth first second)
    (template : String) :
    AgreeAt depth (Expansion.importing template first) (Expansion.importing template second) := by
  intro progress atDepth
  rw [Expansion.importing, Expansion.importing,
    agree { progress with imports := progress.imports ++ [template] } atDepth]

end AgreeAt

end Expansion

open Expansion (AgreeAt)

namespace Interpreter

variable {interpreter : Interpreter} {depth : Nat}

/-- Carrying out a macro call, which is let in unless too many are going on. -/
def expandCall
    (interpreter : Interpreter)
    (node : Node)
    (scope : Scope) :
    Expansion (List Node × Scope) := do
  let progress ← get
  interpreter.callMacro
    (if progress.depth < interpreter.settings.maxDepth then some interpreter.expandNodes else none)
    node scope

/-- Scripts agree if the ways of expanding nodes on their behalf do. -/
theorem agreeAt_runScript
    {expand expand' : Expander}
    (restores : ∀ nodes scope, Restores (expand nodes scope))
    (agree : ∀ nodes scope, AgreeAt depth (expand nodes scope) (expand' nodes scope))
    (script : Script) :
    AgreeAt depth (interpreter.runScript expand script) (interpreter.runScript expand' script) := by
  induction script with
  | finish nodes scope =>
      exact .refl _
  | fail problem =>
      exact .refl _
  | charge next inductionHypothesis =>
      exact .after (.charge _) fun _ => inductionHypothesis
  | expand nodes scope next inductionHypothesis =>
      exact .bind (agree nodes scope) (restores nodes scope) fun result =>
        inductionHypothesis result.1 result.2
  | insertTemplate template marker content scope next inductionHypothesis =>
      refine .bind ?_ (restores_insertTemplate restores template marker content scope)
        inductionHypothesis
      rw [insertTemplate_eq, insertTemplate_eq]
      refine .after (restores_loadTemplate template) fun nodes => ?_
      exact .bind ((agree _ _).importing template) ((restores _ _).importing template) fun _ =>
        .refl _
  | interpolate raw scope next inductionHypothesis =>
      exact .after (interpreter.onlyLogs_interpolate scope raw).restores inductionHypothesis
  | evaluate source scope next inductionHypothesis =>
      exact .after (interpreter.onlyLogs_evaluate scope source).restores inductionHypothesis
  | invoke reference next inductionHypothesis =>
      exact .after (interpreter.onlyLogs_invoke reference).restores inductionHypothesis
  | define name interpolates body next _ inductionHypothesis =>
      exact .after (Expansion.OnlyLogs.record _ _).restores fun _ =>
        .after (.defining name ⟨interpolates, body⟩) fun _ => inductionHypothesis
  | addDefault tag entry next inductionHypothesis =>
      exact .after (.styling tag entry) fun _ => inductionHypothesis
  | record level text next inductionHypothesis =>
      exact .after (Expansion.OnlyLogs.record level text).restores fun _ => inductionHypothesis

theorem agreeAt_callMacro
    {expand expand' : Expander}
    (restores : ∀ nodes scope, Restores (expand nodes scope))
    (agree : ∀ nodes scope, AgreeAt (depth + 1) (expand nodes scope) (expand' nodes scope))
    (node : Node)
    (scope : Scope) :
    AgreeAt depth
      (interpreter.callMacro (some expand) node scope)
      (interpreter.callMacro (some expand') node scope) := by
  rw [callMacro_eq, callMacro_eq]
  refine .after .get fun progress => .within ?_ _
  cases interpreter.findMacro? progress node.name with
  | none =>
      exact .refl _
  | some rule =>
      exact .after (onlyLogs_prepareCall rule node scope _).restores fun call =>
        .calling (agreeAt_runScript restores agree _)

mutual

/-- Forests agree if the macro calls in them do. -/
theorem agreeAt_expandForest
    {call call' : Node → Scope → Expansion (List Node × Scope)}
    (restores : ∀ node scope, Restores (call node scope))
    (agree : ∀ node scope, AgreeAt depth (call node scope) (call' node scope)) :
    ∀ nodes scope,
      AgreeAt depth
        (interpreter.expandForest call nodes scope)
        (interpreter.expandForest call' nodes scope)
  | [], scope => by
      rw [expandForest, expandForest]
      exact .refl _
  | node :: rest, scope => by
      rw [expandForest, expandForest]
      refine .after (.charge _) fun _ => .after .get fun progress => ?_
      split
      · exact .bind (agree node scope) (restores node scope) fun result =>
          .bind (agreeAt_expandForest restores agree rest result.2)
            (restores_expandForest restores rest result.2) fun _ => .refl _
      · exact .bind (agreeAt_expandTag restores agree node scope)
          (restores_expandTag restores node scope) fun expanded =>
            .bind (agreeAt_expandForest restores agree rest scope)
              (restores_expandForest restores rest scope) fun _ => .refl _

theorem agreeAt_expandTag
    {call call' : Node → Scope → Expansion (List Node × Scope)}
    (restores : ∀ node scope, Restores (call node scope))
    (agree : ∀ node scope, AgreeAt depth (call node scope) (call' node scope)) :
    ∀ node scope,
      AgreeAt depth
        (interpreter.expandTag call node scope)
        (interpreter.expandTag call' node scope)
  | ⟨name, isMacro, attributes, children, text, position⟩, scope => by
      rw [expandTag_eq, expandTag_eq]
      refine .after .get fun progress => .within ?_ _
      refine .after (onlyLogs_prepareTag _ scope).restores fun filled => ?_
      exact .bind (agreeAt_expandForest restores agree children scope.child)
        (restores_expandForest restores children scope.child) fun _ => .refl _

end

/-- Nodes are expanded on the level that the macro calls that are going on leave. -/
theorem expandNodes_apply
    (nodes : List Node)
    (scope : Scope)
    (progress : Progress) :
    interpreter.expandNodes nodes scope progress =
      interpreter.expandOnLevel (interpreter.settings.maxDepth - progress.depth) nodes scope
        progress :=
  Expansion.get_bind_apply _ progress

/-- Whether a macro call is let in depends on the depth. -/
theorem expandCall_apply
    (node : Node)
    (scope : Scope)
    (progress : Progress) :
    interpreter.expandCall node scope progress =
      interpreter.callMacro
        (if progress.depth < interpreter.settings.maxDepth then
          some interpreter.expandNodes
        else
          none)
        node scope progress :=
  Expansion.get_bind_apply _ progress

/-- Nodes are expanded by going through them and carrying out their macro calls, without levels. -/
theorem expandNodes_eq
    (nodes : List Node)
    (scope : Scope) :
    interpreter.expandNodes nodes scope =
      interpreter.expandForest interpreter.expandCall nodes scope := by
  funext progress
  rw [expandNodes_apply]
  cases levels : interpreter.settings.maxDepth - progress.depth with
  | zero =>
      rw [expandOnLevel]
      refine agreeAt_expandForest (restores_callMacro fun _ isExpander => ?_)
        (fun node scope inner atDepth => ?_) nodes scope progress rfl
      · cases isExpander
      · rw [expandCall_apply, if_neg (by omega)]
  | succ level =>
      rw [expandOnLevel]
      refine agreeAt_expandForest (restores_callMacro fun expander isExpander => ?_)
        (fun node scope inner atDepth => ?_) nodes scope progress rfl
      · cases isExpander
        exact restores_expandOnLevel level
      · rw [expandCall_apply, if_pos (by omega)]
        refine agreeAt_callMacro (restores_expandOnLevel level) (fun nodes scope below deeper => ?_)
          node scope inner atDepth
        rw [expandNodes_apply, show interpreter.settings.maxDepth - below.depth = level by omega]

end Interpreter

end WidgetMarkup
