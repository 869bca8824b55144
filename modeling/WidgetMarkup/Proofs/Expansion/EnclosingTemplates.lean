import WidgetMarkup.Proofs.Expansion.Recursion
import WidgetMarkup.Proofs.Expansion.UniformFilling

namespace WidgetMarkup

open Markup
open Expansion (IsUniform OnlyJournals)

/-!
# Expansion inside of one template more

Which templates are being expanded is asked only where one more is to be expanded. So two expansions
of which one is inside of one template more do the same, until the outer one comes to that template:
it goes on with its nodes, and the inner one fails.
-/

/-- What two expansions differ in of which the second is inside of one template more: the templates
that both are inside of, and the one that is around the second only. -/
structure Enclosure where
  /-- The templates outside of the one more. -/
  outer : List String
  template : String
  /-- Whether both have told the log the same. -/
  sameLog : Prop

namespace Enclosure

/-- The templates that the first expansion is inside of, `inner` having been entered since. -/
def chain (enclosure : Enclosure) (inner : List String) : List String :=
  enclosure.outer ++ inner

/-- The templates that the second expansion is inside of. -/
def enclosedChain (enclosure : Enclosure) (inner : List String) : List String :=
  enclosure.outer ++ enclosure.template :: inner

variable {enclosure : Enclosure} {inner : List String} {template : String}

theorem chain_append :
    enclosure.chain inner ++ [template] = enclosure.chain (inner ++ [template]) :=
  List.append_assoc ..

theorem enclosedChain_append :
    enclosure.enclosedChain inner ++ [template] = enclosure.enclosedChain (inner ++ [template]) :=
  List.append_assoc ..

/-- The second expansion is inside of what the first is inside of, and of the one template more. -/
theorem mem_enclosedChain :
    template ∈ enclosure.enclosedChain inner ↔
      template ∈ enclosure.chain inner ∨ template = enclosure.template := by
  unfold enclosedChain chain
  rw [List.mem_append, List.mem_append, List.mem_cons, or_assoc, or_comm (b := template ∈ inner)]

end Enclosure

variable {enclosure : Enclosure} {inner : List String}

/-- Whether two expansions have come equally far, the second inside of one template more. -/
structure Progress.IsEnclosed
    (enclosure : Enclosure)
    (inner : List String)
    (progress progress' : Progress) :
    Prop where
  macros : progress.macros = progress'.macros
  styles : progress.styles = progress'.styles
  depth : progress.depth = progress'.depth
  charged : progress.charged = progress'.charged
  path : progress.path = progress'.path
  imports : progress.imports = enclosure.chain inner
  imports' : progress'.imports = enclosure.enclosedChain inner
  calls : progress.journal.SameCalls progress'.journal
  sameLog : enclosure.sameLog → progress.journal = progress'.journal

/-- Whether two problems are the same, or are both with a template that is being expanded already,
the second chain being that with the one template more. -/
inductive Problem.IsEnclosed (enclosure : Enclosure) : Problem → Problem → Prop where
  | same
      (problem : Problem) :
      IsEnclosed enclosure problem problem
  | cycle
      (inner : List String) :
      IsEnclosed enclosure (.importCycle (enclosure.chain inner))
        (.importCycle (enclosure.enclosedChain inner))

/-- Whether two problems at one place are the same but for the one template more. -/
structure LocatedProblem.IsEnclosed
    (enclosure : Enclosure)
    (first second : LocatedProblem) :
    Prop where
  problem : first.problem.IsEnclosed enclosure second.problem
  attributeName : first.attributeName = second.attributeName
  path : first.path = second.path

/-- Whether a problem is that with the one template more, which is being expanded already. -/
def LocatedProblem.Reenters (problem : LocatedProblem) (enclosure : Enclosure) : Prop :=
  ∃ between,
    problem.problem = .importCycle (enclosure.enclosedChain (between ++ [enclosure.template]))

namespace Expansion

variable {α β : Type}

/-- Whether two results are those of expansions of which the second is inside of one template more:
the same value, the same problem but for that template, or for the second one the problem with
it. -/
inductive EnclosedResults (enclosure : Enclosure) (inner : List String) :
    EStateM.Result LocatedProblem Progress α →
      EStateM.Result LocatedProblem Progress α → Prop where
  | ok
      {value : α}
      {after after' : Progress}
      (related : after.IsEnclosed enclosure inner after') :
      EnclosedResults enclosure inner (.ok value after) (.ok value after')
  | error
      {problem problem' : LocatedProblem}
      {after after' : Progress}
      (given : problem.IsEnclosed enclosure problem')
      (related : after.IsEnclosed enclosure inner after') :
      EnclosedResults enclosure inner (.error problem after) (.error problem' after')
  | reentered
      {result : EStateM.Result LocatedProblem Progress α}
      {problem : LocatedProblem}
      {after : Progress}
      (reenters : problem.Reenters enclosure) :
      EnclosedResults enclosure inner result (.error problem after)

/-- Whether two parts of expansions come to the same, but for the one template more that the second
is inside of. -/
def IsEnclosed (enclosure : Enclosure) (first second : Expansion α) : Prop :=
  ∀ inner progress progress',
    progress.IsEnclosed enclosure inner progress' →
      EnclosedResults enclosure inner (first progress) (second progress')

namespace IsEnclosed

variable {first second : Expansion α}

theorem pure
    (value : α) :
    IsEnclosed enclosure (Pure.pure value : Expansion α) (Pure.pure value) :=
  fun _ _ _ related => .ok related

theorem fail
    (problem : Problem) :
    IsEnclosed enclosure (Expansion.fail problem : Expansion α) (Expansion.fail problem) :=
  fun _ _ _ related => .error ⟨.same problem, rfl, related.path⟩ related

theorem bind
    {next next' : α → Expansion β}
    (firsts : IsEnclosed enclosure first second)
    (nexts : ∀ value, IsEnclosed enclosure (next value) (next' value)) :
    IsEnclosed enclosure (first >>= next) (second >>= next') := by
  intro inner progress progress' related
  have ends := firsts inner progress progress' related
  rw [bind_apply, bind_apply]
  generalize first progress = result, second progress' = result' at ends
  cases ends with
  | ok between =>
      exact nexts _ inner _ _ between
  | error given between =>
      exact .error given between
  | reentered reenters =>
      exact .reentered reenters

/-- What looks at the state first may look at related states. -/
theorem get_bind
    {next next' : Progress → Expansion α}
    (nexts :
      ∀ inner progress progress',
        progress.IsEnclosed enclosure inner progress' →
          EnclosedResults enclosure inner (next progress progress) (next' progress' progress')) :
    IsEnclosed enclosure (get >>= next) (get >>= next') :=
  nexts

theorem modifying
    {change : Progress → Progress}
    (keeps :
      ∀ inner progress progress',
        progress.IsEnclosed enclosure inner progress' →
          (change progress).IsEnclosed enclosure inner (change progress')) :
    IsEnclosed enclosure (modify change : Expansion PUnit) (modify change) :=
  fun inner progress progress' related => .ok (keeps inner progress progress' related)

theorem record
    (level : LogLevel)
    (text : String) :
    IsEnclosed enclosure (Expansion.record level text) (Expansion.record level text) :=
  .modifying fun _ _ _ related =>
    { related with
      calls := related.calls
      sameLog := fun isSame => congrArg (Journal.record · level text) (related.sameLog isSame) }

theorem defining
    (name : String)
    (rule : MacroRule) :
    IsEnclosed enclosure
      (modify fun progress => { progress with macros := progress.macros.insert name rule } :
        Expansion Unit)
      (modify fun progress => { progress with macros := progress.macros.insert name rule }) :=
  .modifying fun _ _ _ related =>
    { related with macros := congrArg (NameTable.insert · name rule) related.macros }

theorem styling
    (tag : String)
    (entry : Attribute) :
    IsEnclosed enclosure
      (modify fun progress => { progress with styles := progress.styles.add tag entry } :
        Expansion Unit)
      (modify fun progress => { progress with styles := progress.styles.add tag entry }) :=
  .modifying fun _ _ _ related =>
    { related with styles := congrArg (·.add tag entry) related.styles }

theorem charge
    (limit : Nat) :
    IsEnclosed enclosure (Expansion.charge limit) (Expansion.charge limit) := by
  refine .bind (.modifying fun _ _ _ related => ?_) fun _ => .get_bind fun _ _ _ related => ?_
  · exact { related with charged := congrArg (· + 1) related.charged }
  · rw [related.charged]
    split
    · exact IsEnclosed.fail _ _ _ _ related
    · exact .ok related

theorem within
    (path : TagPath)
    (inside : IsEnclosed enclosure first second) :
    IsEnclosed enclosure (Expansion.within path first) (Expansion.within path second) := by
  intro inner progress progress' related
  have ends := inside inner { progress with path } { progress' with path }
    { related with path := rfl }
  unfold Expansion.within
  generalize first { progress with path } = result, second { progress' with path } = result' at ends
  cases ends with
  | ok between =>
      exact .ok { between with path := related.path }
  | error given between =>
      exact .error given { between with path := related.path }
  | reentered reenters =>
      exact .reentered reenters

theorem calling
    (inside : IsEnclosed enclosure first second) :
    IsEnclosed enclosure (Expansion.calling first) (Expansion.calling second) := by
  intro inner progress progress' related
  have ends := inside inner { progress with depth := progress.depth + 1 }
    { progress' with depth := progress'.depth + 1 }
    { related with depth := congrArg (· + 1) related.depth }
  unfold Expansion.calling
  generalize first { progress with depth := progress.depth + 1 } = result,
    second { progress' with depth := progress'.depth + 1 } = result' at ends
  cases ends with
  | ok between =>
      exact .ok { between with depth := congrArg (· - 1) between.depth }
  | error given between =>
      exact .error given { between with depth := congrArg (· - 1) between.depth }
  | reentered reenters =>
      exact .reentered reenters

theorem importing
    (template : String)
    (inside : IsEnclosed enclosure first second) :
    IsEnclosed enclosure (Expansion.importing template first)
      (Expansion.importing template second) := by
  intro inner progress progress' related
  have ends := inside (inner ++ [template])
    { progress with imports := progress.imports ++ [template] }
    { progress' with imports := progress'.imports ++ [template] }
    { related with
      imports := by rw [related.imports, Enclosure.chain_append]
      imports' := by rw [related.imports', Enclosure.enclosedChain_append] }
  -- What has been entered is left again.
  have left {after after' : Progress}
      (between : after.IsEnclosed enclosure (inner ++ [template]) after') :
      { after with imports := after.imports.dropLast }.IsEnclosed enclosure inner
        { after' with imports := after'.imports.dropLast } :=
    { between with
      imports := by
        rw [between.imports, ← Enclosure.chain_append, List.dropLast_concat]
      imports' := by
        rw [between.imports', ← Enclosure.enclosedChain_append, List.dropLast_concat] }
  unfold Expansion.importing
  generalize first { progress with imports := progress.imports ++ [template] } = result,
    second { progress' with imports := progress'.imports ++ [template] } = result' at ends
  cases ends with
  | ok between =>
      exact .ok (left between)
  | error given between =>
      exact .error given (left between)
  | reentered reenters =>
      exact .reentered reenters

/-- What does the same in all states does so inside of one template more. -/
theorem ofUniform
    {inner : Expansion α}
    (isUniform : inner.IsUniform) :
    IsEnclosed enclosure inner inner := by
  intro entered progress progress' related
  have ends := isUniform.results enclosure.sameLog related.calls related.sameLog
  have states {after after' : Progress}
      (between : OnlyJournals enclosure.sameLog progress progress' after after') :
      after.IsEnclosed enclosure entered after' := by
    obtain ⟨⟨_, rfl⟩, ⟨_, rfl⟩, calls, sameLog⟩ := between
    exact { related with calls, sameLog }
  generalize inner progress = result, inner progress' = result' at ends
  cases ends with
  | ok given between =>
      cases given
      exact .ok (states between)
  | @error problem problem' _ _ given between =>
      refine .error ⟨?_, given.attributeName, ?_⟩ (states between)
      · rw [given.problem]
        exact .same _
      · rw [given.firstPath, given.secondPath, related.path]

end IsEnclosed

end Expansion

open Expansion (IsEnclosed)

/-- Whether nodes are expanded in the same way inside of one template more. -/
def Expander.IsEnclosed (enclosure : Enclosure) (expand : Expander) : Prop :=
  ∀ nodes scope, Expansion.IsEnclosed enclosure (expand nodes scope) (expand nodes scope)

/-- Whether macro calls are carried out in the same way inside of one template more. -/
def EnclosedCalls
    (enclosure : Enclosure)
    (call : Node → Scope → Expansion (List Node × Scope)) :
    Prop :=
  ∀ node scope, Expansion.IsEnclosed enclosure (call node scope) (call node scope)

namespace Interpreter

variable {interpreter : Interpreter}

theorem findMacro?_eq_of_isEnclosed
    (interpreter : Interpreter)
    {progress progress' : Progress}
    (related : progress.IsEnclosed enclosure inner progress')
    (name : String) :
    interpreter.findMacro? progress name = interpreter.findMacro? progress' name := by
  rw [findMacro?, findMacro?, related.macros]

theorem isMacroCall_eq_of_isEnclosed
    {progress progress' : Progress}
    (related : progress.IsEnclosed enclosure inner progress')
    (node : Node) :
    interpreter.isMacroCall progress node = interpreter.isMacroCall progress' node := by
  rw [isMacroCall, isMacroCall, interpreter.findMacro?_eq_of_isEnclosed related]

/-- A template is read in both expansions or in neither, unless it is the one more. -/
theorem isEnclosed_loadTemplate
    (template : String) :
    IsEnclosed enclosure (interpreter.loadTemplate template)
      (interpreter.loadTemplate template) := by
  intro inner progress progress' related
  rw [loadTemplate_apply, loadTemplate_apply, related.imports, related.imports', related.path]
  by_cases entered : template ∈ enclosure.chain inner
  · rw [if_pos entered, if_pos (Enclosure.mem_enclosedChain.2 (.inl entered)),
      Enclosure.chain_append, Enclosure.enclosedChain_append]
    exact .error ⟨.cycle _, rfl, rfl⟩ related
  · rw [if_neg entered]
    by_cases isTemplate : template = enclosure.template
    · rw [if_pos (Enclosure.mem_enclosedChain.2 (.inr isTemplate)),
        Enclosure.enclosedChain_append, isTemplate]
      exact .reentered ⟨inner, rfl⟩
    · rw [if_neg fun member => (Enclosure.mem_enclosedChain.1 member).elim entered isTemplate]
      split
      · exact .error ⟨.same _, rfl, rfl⟩ related
      · split
        · exact .error ⟨.same _, rfl, rfl⟩ related
        · exact .ok
            { related with
              path := rfl
              imports := rfl
              imports' := rfl
              calls := related.calls
              sameLog := fun isSame => congrArg (Journal.record · _ _) (related.sameLog isSame) }

theorem isEnclosed_insertTemplate
    {expand : Expander}
    (expands : expand.IsEnclosed enclosure)
    (template marker : String)
    (content : List Node)
    (scope : Scope) :
    IsEnclosed enclosure (interpreter.insertTemplate expand template marker content scope)
      (interpreter.insertTemplate expand template marker content scope) := by
  rw [insertTemplate_eq]
  exact (isEnclosed_loadTemplate template).bind fun _ =>
    ((expands _ _).importing template).bind fun _ => .pure _

theorem isEnclosed_runScript
    {expand : Expander}
    (expands : expand.IsEnclosed enclosure)
    (script : Script) :
    IsEnclosed enclosure (interpreter.runScript expand script)
      (interpreter.runScript expand script) := by
  induction script with
  | finish nodes scope =>
      exact .pure _
  | fail problem =>
      exact .fail problem
  | charge next inductionHypothesis =>
      exact .bind (.charge _) fun _ => inductionHypothesis
  | expand nodes scope next inductionHypothesis =>
      exact (expands nodes scope).bind fun result => inductionHypothesis result.1 result.2
  | insertTemplate template marker content scope next inductionHypothesis =>
      exact (isEnclosed_insertTemplate expands template marker content scope).bind
        inductionHypothesis
  | interpolate raw scope next inductionHypothesis =>
      exact .bind (.ofUniform (isUniform_interpolate scope raw)) inductionHypothesis
  | evaluate source scope next inductionHypothesis =>
      exact .bind (.ofUniform (isUniform_evaluate scope source)) inductionHypothesis
  | invoke reference next inductionHypothesis =>
      exact .bind (.ofUniform (.logged (interpreter.actions.isBlind_invoke reference) id))
        inductionHypothesis
  | define name interpolates body next _ inductionHypothesis =>
      exact .bind (.record _ _) fun _ => .bind (.defining name _) fun _ => inductionHypothesis
  | addDefault tag entry next inductionHypothesis =>
      exact .bind (.styling tag entry) fun _ => inductionHypothesis
  | record level text next inductionHypothesis =>
      exact .bind (.record level text) fun _ => inductionHypothesis

theorem isEnclosed_prepareCall
    (rule : MacroRule)
    (node : Node)
    (scope : Scope)
    (path : TagPath) :
    IsEnclosed enclosure (interpreter.prepareCall rule node scope path)
      (interpreter.prepareCall rule node scope path) := by
  unfold prepareCall
  split
  · exact .bind (.ofUniform (isUniform_interpolateAttributes scope _)) fun _ =>
      .bind (.record _ _) fun _ => .pure _
  · exact .bind (.pure _) fun _ => .bind (.record _ _) fun _ => .pure _

theorem isEnclosed_callMacro
    {expand : Option Expander}
    (expands : ∀ expander, expand = some expander → expander.IsEnclosed enclosure) :
    EnclosedCalls enclosure (interpreter.callMacro expand) := by
  intro node scope
  rw [callMacro_eq]
  refine .get_bind fun inner progress progress' related => ?_
  rw [interpreter.findMacro?_eq_of_isEnclosed related, related.path]
  refine IsEnclosed.within _ ?_ inner progress progress' related
  split
  · exact .fail _
  · exact .fail _
  · exact (isEnclosed_prepareCall _ node scope _).bind fun call =>
      (isEnclosed_runScript (expands _ rfl) _).calling

theorem isEnclosed_prepareTag
    (node : Node)
    (scope : Scope) :
    IsEnclosed enclosure (interpreter.prepareTag node scope)
      (interpreter.prepareTag node scope) := by
  refine .bind (.ofUniform (isUniform_interpolateAttributes scope _)) fun filled => ?_
  refine .get_bind fun inner progress progress' related => ?_
  rw [related.styles]
  refine (?_ : IsEnclosed enclosure _ _) inner progress progress' related
  split
  · exact .bind (.ofUniform (isUniform_interpolate scope _)) fun text => .pure _
  · exact .pure _

mutual

/-- A forest is expanded in the same way inside of one template more if macro calls are. -/
theorem isEnclosed_expandForest
    {call : Node → Scope → Expansion (List Node × Scope)}
    (calls : EnclosedCalls enclosure call) :
    ∀ nodes scope,
      IsEnclosed enclosure (interpreter.expandForest call nodes scope)
        (interpreter.expandForest call nodes scope)
  | [], scope => by
      rw [expandForest]
      exact .pure _
  | node :: rest, scope => by
      rw [expandForest]
      refine .bind (.charge _) fun _ => .get_bind fun inner progress progress' related => ?_
      rw [isMacroCall_eq_of_isEnclosed related]
      refine (?_ : IsEnclosed enclosure _ _) inner progress progress' related
      split
      · exact (calls node scope).bind fun result =>
          (isEnclosed_expandForest calls rest result.2).bind fun _ => .pure _
      · exact (isEnclosed_expandTag calls node scope).bind fun expanded =>
          (isEnclosed_expandForest calls rest scope).bind fun _ => .pure _

theorem isEnclosed_expandTag
    {call : Node → Scope → Expansion (List Node × Scope)}
    (calls : EnclosedCalls enclosure call) :
    ∀ node scope,
      IsEnclosed enclosure (interpreter.expandTag call node scope)
        (interpreter.expandTag call node scope)
  | ⟨name, isMacro, attributes, children, text, position⟩, scope => by
      rw [expandTag_eq]
      refine .get_bind fun inner progress progress' related => ?_
      rw [related.path]
      refine IsEnclosed.within _ ?_ inner progress progress' related
      exact (isEnclosed_prepareTag _ scope).bind fun filled =>
        (isEnclosed_expandForest calls children scope.child).bind fun _ => .pure _

end

theorem isEnclosed_expandOnLevel
    (levels : Nat) :
    (interpreter.expandOnLevel levels).IsEnclosed enclosure := by
  induction levels with
  | zero =>
      exact isEnclosed_expandForest (isEnclosed_callMacro fun _ isExpander => nomatch isExpander)
  | succ levels inductionHypothesis =>
      refine isEnclosed_expandForest (isEnclosed_callMacro fun _ isExpander => ?_)
      cases isExpander
      exact inductionHypothesis

/-- Nodes are expanded in the same way inside of one template more, up to where that is to be
expanded. -/
theorem isEnclosed_expandNodes :
    Expander.IsEnclosed enclosure interpreter.expandNodes := by
  intro nodes scope
  refine .get_bind fun inner progress progress' related => ?_
  rw [related.depth]
  exact isEnclosed_expandOnLevel _ nodes scope inner progress progress' related

end Interpreter

end WidgetMarkup
