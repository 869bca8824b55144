import WidgetMarkup.Proofs.Expansion.Filling

namespace WidgetMarkup

open Markup
open Expansion (Restores Restored OnlyLogs stateAfter)

/-!
# The recursion of the expansion

Expansion on levels is a recursion that knows no levels: nodes are expanded by carrying out their
macro calls, and these expand nodes again, unless as many calls are going on as there may be. For
every part of an expansion restores the depth, so that the number of levels below never has to be
handed down.
-/

namespace Interpreter

variable {interpreter : Interpreter}

/-- A node that is no macro call is unmarked. -/
theorem isMacro_of_isMacroCall
    {progress : Progress}
    {node : Node}
    (isTag : interpreter.isMacroCall progress node = false) :
    node.isMacro = false := by
  rw [isMacroCall, Bool.or_eq_false_iff] at isTag
  exact isTag.1

/-- Reads a template that is to be expanded. -/
def loadTemplate (interpreter : Interpreter) (template : String) : Expansion (List Node) := do
  let progress ← get
  if progress.imports.contains template then
    Expansion.fail (.importCycle (progress.imports ++ [template]))
  else
    match interpreter.templates template with
    | none => Expansion.fail (.templateNotFound template)
    | some source =>
        match forestOfSource interpreter.settings.marker source with
        | .error fault => Expansion.fail (.markupFault fault)
        | .ok nodes => do
            Expansion.record .debug ("importing `" ++ template ++ "`")
            return nodes

/-- Fills in the attributes of a macro call, the path being its own. -/
def prepareCall
    (interpreter : Interpreter)
    (rule : MacroRule)
    (node : Node)
    (scope : Scope)
    (path : TagPath) :
    Expansion MacroCall := do
  let attributes ←
    if rule.interpolates then
      interpreter.interpolateAttributes scope node.attributes
    else
      pure node.attributes
  Expansion.record .debug ("expanding macro at " ++ path.render)
  return { name := node.name, attributes, children := node.children, text := node.text, path }

/-- Fills in the attributes and the text of a tag, the path being its own. -/
def prepareTag
    (interpreter : Interpreter)
    (node : Node)
    (scope : Scope) :
    Expansion (List Attribute × String) := do
  let filled ← interpreter.interpolateAttributes scope node.attributes
  let current ← get
  let text ← if node.hasText then interpreter.interpolate scope node.text else pure ""
  return (current.styles.complete node.name filled, text)

/-- A template is read unless it is being expanded, is not there or is no markup; reading it
leaves a line in the journal. -/
theorem loadTemplate_apply
    (template : String)
    (progress : Progress) :
    interpreter.loadTemplate template progress =
      if template ∈ progress.imports then
        .error ((Problem.importCycle (progress.imports ++ [template])).located progress.path)
          progress
      else
        match interpreter.templates template with
        | none => .error ((Problem.templateNotFound template).located progress.path) progress
        | some source =>
            match forestOfSource interpreter.settings.marker source with
            | .error fault => .error ((Problem.markupFault fault).located progress.path) progress
            | .ok nodes =>
                .ok nodes
                  { progress with
                    journal :=
                      progress.journal.record .debug ("importing `" ++ template ++ "`") } := by
  unfold loadTemplate
  rw [Expansion.get_bind_apply]
  by_cases entered : template ∈ progress.imports
  · rw [if_pos entered, if_pos (List.contains_iff_mem.2 entered)]
    rfl
  · rw [if_neg entered, if_neg (by simpa using entered)]
    cases interpreter.templates template with
    | none =>
        rfl
    | some source =>
        cases read : forestOfSource interpreter.settings.marker source <;>
          simp only [read] <;> rfl

/-- A template that is read is there and is not being expanded. -/
theorem loadTemplate_eq_ok
    {template : String}
    {progress ready : Progress}
    {nodes : List Node}
    (loaded : interpreter.loadTemplate template progress = .ok nodes ready) :
    template ∉ progress.imports ∧
      (∃ source,
        interpreter.templates template = some source ∧
          forestOfSource interpreter.settings.marker source = .ok nodes) ∧
      ready =
        { progress with
          journal := progress.journal.record .debug ("importing `" ++ template ++ "`") } := by
  rw [loadTemplate_apply] at loaded
  split at loaded
  · cases loaded
  · rename_i other
    split at loaded
    · cases loaded
    · rename_i source found
      split at loaded <;> cases loaded
      rename_i read
      exact ⟨other, ⟨source, found, read⟩, rfl⟩

/-- What keeps a template from being read halts the engine only if it is being expanded. -/
theorem loadTemplate_eq_error
    {template : String}
    {progress after : Progress}
    {problem : LocatedProblem}
    (loaded : interpreter.loadTemplate template progress = .error problem after) :
    after = progress ∧
      (problem.problem.isHalt = false ∨
        template ∈ progress.imports ∧
          problem =
            (Problem.importCycle (progress.imports ++ [template])).located progress.path) := by
  rw [loadTemplate_apply] at loaded
  split at loaded
  · rename_i entered
    cases loaded
    exact ⟨rfl, .inr ⟨entered, rfl⟩⟩
  · split at loaded
    · cases loaded
      exact ⟨rfl, .inl rfl⟩
    · split at loaded <;> cases loaded
      exact ⟨rfl, .inl rfl⟩

theorem restores_loadTemplate
    (template : String) :
    Restores (interpreter.loadTemplate template) := by
  intro progress
  rw [stateAfter]
  cases loaded : interpreter.loadTemplate template progress with
  | ok nodes ready =>
      obtain ⟨_, _, rfl⟩ := loadTemplate_eq_ok loaded
      exact ⟨rfl, rfl, rfl, Nat.le_refl _⟩
  | error problem after =>
      obtain ⟨rfl, _⟩ := loadTemplate_eq_error loaded
      exact .refl after

theorem onlyLogs_prepareCall
    (rule : MacroRule)
    (node : Node)
    (scope : Scope)
    (path : TagPath) :
    OnlyLogs (interpreter.prepareCall rule node scope path) := by
  unfold prepareCall
  split
  · exact (interpreter.onlyLogs_interpolateAttributes scope _).bind fun _ =>
      (OnlyLogs.record _ _).bind fun _ => .pure _
  · exact (OnlyLogs.pure _).bind fun _ => (OnlyLogs.record _ _).bind fun _ => .pure _

theorem onlyLogs_prepareTag
    (node : Node)
    (scope : Scope) :
    OnlyLogs (interpreter.prepareTag node scope) := by
  refine (interpreter.onlyLogs_interpolateAttributes scope _).bind fun filled => ?_
  refine OnlyLogs.get.bind fun current => ?_
  split
  · exact (interpreter.onlyLogs_interpolate scope _).bind fun _ => .pure _
  · exact (OnlyLogs.pure _).bind fun _ => .pure _

/-- A template is read and then expanded in a fresh scope inside. -/
theorem insertTemplate_eq
    (expand : Expander)
    (template marker : String)
    (content : List Node)
    (scope : Scope) :
    interpreter.insertTemplate expand template marker content scope =
      (do
        let nodes ← interpreter.loadTemplate template
        let result ←
          Expansion.importing template
            (expand (Node.replaceMarkers marker content nodes) scope.child)
        return result.1) := by
  unfold insertTemplate loadTemplate
  simp only [bind_assoc]
  refine bind_congr fun progress => ?_
  split
  · rfl
  · cases found : interpreter.templates template with
    | none =>
        rfl
    | some source =>
        cases read : forestOfSource interpreter.settings.marker source with
        | error fault =>
            simp only [read]
            rfl
        | ok nodes =>
            simp only [read, bind_assoc, pure_bind]

/-- A macro call is prepared and then carried out, if its macro is known and it is let in. -/
theorem callMacro_eq
    (expand : Option Expander)
    (node : Node)
    (scope : Scope) :
    interpreter.callMacro expand node scope =
      (do
        let progress ← get
        let path := interpreter.macroPath progress.path node.name
        Expansion.within path
          (match interpreter.findMacro? progress node.name, expand with
          | none, _ => Expansion.fail (.unknownMacro node.name)
          | some _, none => Expansion.fail (.tooDeep interpreter.settings.maxDepth)
          | some rule, some expand => do
              let call ← interpreter.prepareCall rule node scope path
              Expansion.calling
                (interpreter.runScript expand (rule.script interpreter.sources call scope)))) := by
  unfold callMacro prepareCall
  refine bind_congr fun progress => ?_
  cases found : interpreter.findMacro? progress node.name with
  | none =>
      rfl
  | some rule =>
      cases expand with
      | none =>
          rfl
      | some expand =>
          cases fills : rule.interpolates <;> simp [fills, bind_assoc]

/-- A tag is prepared and then expanded inside. -/
theorem expandTag_eq
    (call : Node → Scope → Expansion (List Node × Scope))
    (node : Node)
    (scope : Scope) :
    interpreter.expandTag call node scope =
      (do
        let progress ← get
        Expansion.within (progress.path.child node.name (node.attribute? "id")) do
          let filled ← interpreter.prepareTag node scope
          let result ← interpreter.expandForest call node.children scope.child
          return ⟨node.name, false, filled.1, result.1, filled.2, node.position⟩) := by
  obtain ⟨name, isMacro, attributes, children, text, position⟩ := node
  rw [expandTag]
  unfold prepareTag
  refine bind_congr fun progress => ?_
  congr 1
  simp only [bind_assoc]
  refine bind_congr fun filled => bind_congr fun current => ?_
  split <;> simp only [bind_assoc, pure_bind]

/-- Expanding a template restores the state if expanding nodes does. -/
theorem restores_insertTemplate
    {expand : Expander}
    (expandRestores : ∀ nodes scope, Restores (expand nodes scope))
    (template marker : String)
    (content : List Node)
    (scope : Scope) :
    Restores (interpreter.insertTemplate expand template marker content scope) := by
  rw [insertTemplate_eq]
  exact (restores_loadTemplate template).bind fun nodes =>
    ((expandRestores _ _).importing template).bind fun _ => .pure _

/-- Carrying out a script restores the state if expanding nodes does. -/
theorem restores_runScript
    {expand : Expander}
    (expandRestores : ∀ nodes scope, Restores (expand nodes scope))
    (script : Script) :
    Restores (interpreter.runScript expand script) := by
  induction script with
  | finish nodes scope =>
      exact .pure _
  | fail problem =>
      exact .fail problem
  | charge next inductionHypothesis =>
      exact (Restores.charge _).bind fun _ => inductionHypothesis
  | expand nodes scope next inductionHypothesis =>
      exact (expandRestores nodes scope).bind fun result =>
        inductionHypothesis result.1 result.2
  | insertTemplate template marker content scope next inductionHypothesis =>
      exact (restores_insertTemplate expandRestores template marker content scope).bind
        inductionHypothesis
  | interpolate raw scope next inductionHypothesis =>
      exact (interpreter.onlyLogs_interpolate scope raw).restores.bind inductionHypothesis
  | evaluate source scope next inductionHypothesis =>
      exact (interpreter.onlyLogs_evaluate scope source).restores.bind inductionHypothesis
  | invoke reference next inductionHypothesis =>
      exact (interpreter.onlyLogs_invoke reference).restores.bind inductionHypothesis
  | define name interpolates body next _ inductionHypothesis =>
      exact (OnlyLogs.record _ _).restores.bind fun _ =>
        (Restores.defining name ⟨interpolates, body⟩).bind fun _ => inductionHypothesis
  | addDefault tag entry next inductionHypothesis =>
      exact (Restores.styling tag entry).bind fun _ => inductionHypothesis
  | record level text next inductionHypothesis =>
      exact (OnlyLogs.record level text).restores.bind fun _ => inductionHypothesis

theorem restores_callMacro
    {expand : Option Expander}
    (expandRestores :
      ∀ expander, expand = some expander → ∀ nodes scope, Restores (expander nodes scope))
    (node : Node)
    (scope : Scope) :
    Restores (interpreter.callMacro expand node scope) := by
  rw [callMacro_eq]
  refine Restores.get.bind fun progress => Restores.within ?_ _
  split
  · exact .fail _
  · exact .fail _
  · exact (onlyLogs_prepareCall _ node scope _).restores.bind fun call =>
      (restores_runScript (expandRestores _ rfl) _).calling

mutual

/-- Expanding a forest restores the state if macro calls do. -/
theorem restores_expandForest
    {call : Node → Scope → Expansion (List Node × Scope)}
    (callRestores : ∀ node scope, Restores (call node scope)) :
    ∀ nodes scope, Restores (interpreter.expandForest call nodes scope)
  | [], scope => by
      rw [expandForest]
      exact .pure _
  | node :: rest, scope => by
      rw [expandForest]
      refine (Restores.charge _).bind fun _ => Restores.get.bind fun progress => ?_
      split
      · exact (callRestores node scope).bind fun result =>
          (restores_expandForest callRestores rest result.2).bind fun _ => .pure _
      · exact (restores_expandTag callRestores node scope).bind fun expanded =>
          (restores_expandForest callRestores rest scope).bind fun _ => .pure _

theorem restores_expandTag
    {call : Node → Scope → Expansion (List Node × Scope)}
    (callRestores : ∀ node scope, Restores (call node scope)) :
    ∀ node scope, Restores (interpreter.expandTag call node scope)
  | ⟨name, isMacro, attributes, children, text, position⟩, scope => by
      rw [expandTag_eq]
      refine Restores.get.bind fun progress => Restores.within ?_ _
      exact (onlyLogs_prepareTag _ scope).restores.bind fun filled =>
        (restores_expandForest callRestores children scope.child).bind fun _ => .pure _

end

theorem restores_expandOnLevel
    (levels : Nat)
    (nodes : List Node)
    (scope : Scope) :
    Restores (interpreter.expandOnLevel levels nodes scope) := by
  induction levels generalizing nodes scope with
  | zero =>
      refine restores_expandForest (restores_callMacro fun expander isExpander => ?_) nodes scope
      cases isExpander
  | succ levels inductionHypothesis =>
      refine restores_expandForest (restores_callMacro fun expander isExpander => ?_) nodes scope
      cases isExpander
      exact inductionHypothesis

theorem restores_expandNodes
    (nodes : List Node)
    (scope : Scope) :
    Restores (interpreter.expandNodes nodes scope) :=
  Restores.get.bind fun _ => restores_expandOnLevel _ nodes scope

end Interpreter

end WidgetMarkup
