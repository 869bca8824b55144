import WidgetMarkup.Proofs.Expansion.EnclosingTemplates
import WidgetMarkup.Proofs.Expansion.NormalForms
import WidgetMarkup.Proofs.Expansion.OverriddenDefaults
import WidgetMarkup.Proofs.Expansion.Wrappers

namespace WidgetMarkup

open Markup
open Expansion (EnclosedResults Outcome bind_apply)

/-!
# Templates as macros

To insert a template is to call a macro without parameters whose body are the nodes of the template:
content takes the place of the same markers, in a fresh scope inside. The template is on the chain
of those that are being expanded, and the macro is not. So both come to the same, unless the
template is expanded again on the way.
-/

/-- The macro without parameters that nodes are the body of. -/
def UserMacro.ofNodes (marker : String) (nodes : List Node) : UserMacro :=
  { marker, parameters := [], body := nodes }

/-- The script that inserts a template in place of a call, and leaves the scope as it is. -/
def Script.ofTemplate
    (template marker : String)
    (content : List Node)
    (scope : Scope) :
    Script :=
  .insertTemplate template marker content scope fun nodes => .finish nodes scope

namespace LocatedProblem.SameProblem

theorem trans
    {first second third : LocatedProblem}
    (earlier : first.SameProblem second)
    (later : second.SameProblem third) :
    first.SameProblem third :=
  ⟨earlier.problem.trans later.problem, earlier.attributeName.trans later.attributeName⟩

end LocatedProblem.SameProblem

namespace Expansion.Outcome

/-- Whether an outcome is a failure with a template that is being expanded already. -/
def IsImportCycle : Outcome → Prop
  | .ok _ _ => False
  | .error problem _ => ∃ chain, problem.problem = .importCycle chain

theorem isImportCycle_adapt
    {give : List Node × Scope → List Node × Scope}
    {restore : Progress → Progress}
    {outcome : Outcome} :
    (outcome.adapt give restore).IsImportCycle ↔ outcome.IsImportCycle := by
  cases outcome <;> exact Iff.rfl

/-- What is made of the value of an expansion is made of its outcome. -/
theorem adapt_of_bind
    (inner : Expansion (List Node × Scope))
    (give : List Node × Scope → List Node × Scope)
    (progress : Progress) :
    (do let value ← inner; return give value : Expansion (List Node × Scope)) progress =
      Outcome.adapt give id (inner progress) := by
  rw [bind_apply]
  cases inner progress <;> rfl

theorem Agrees.trans
    {first second third : Outcome}
    (earlier : first.Agrees second)
    (later : second.Agrees third) :
    first.Agrees third := by
  cases earlier with
  | ok given related =>
      cases later with
      | ok given' related' =>
          exact .ok (given.trans given')
            ⟨fun name => (related.macros name).trans (related'.macros name),
              related.styles.trans related'.styles, related.calls.trans related'.calls⟩
  | error given related =>
      cases later with
      | error given' related' =>
          exact .error (given.trans given')
            ⟨fun name => (related.macros name).trans (related'.macros name),
              related.styles.trans related'.styles, related.calls.trans related'.calls⟩

/-- Outcomes that agree do so when they are changed in the same way, on any paths. -/
theorem Agrees.adapt
    {first second : Outcome}
    (agrees : first.Agrees second)
    (give : List Node × Scope → List Node × Scope)
    {restore restore' : Progress → Progress}
    (restores :
      ∀ after after',
        after.SameEffects after' → (restore after).SameEffects (restore' after')) :
    Agrees (first.adapt give restore) (second.adapt give restore') := by
  cases agrees with
  | ok given related =>
      exact .ok (congrArg give given) (restores _ _ related)
  | error given related =>
      exact .error given (restores _ _ related)

/-- An outcome that agrees with a failure at a limit is one. -/
theorem Agrees.isLimit
    {first second : Outcome}
    (agrees : first.Agrees second)
    (isLimit : second.IsLimit) :
    first.IsLimit := by
  cases agrees with
  | ok =>
      exact isLimit
  | error given =>
      exact (congrArg Problem.isLimit given.problem).trans isLimit

end Expansion.Outcome

/-- The macro for templates inserts the one of its path, the nodes inside being the content. -/
theorem StandardMacro.script_template
    {attributes : List Attribute}
    {template marker : String}
    (isPath : Attribute.lookup? "path" attributes = some template)
    (isMarker : (Attribute.lookup? "replace" attributes).getD defaultMarker = marker)
    (name : String)
    (content : List Node)
    (text : String)
    (path : TagPath)
    (sources : Sources)
    (scope : Scope) :
    StandardMacro.template.script sources ⟨name, attributes, content, text, path⟩ scope =
      .ofTemplate template marker content scope := by
  simp only [StandardMacro.template, MacroCall.require, MacroCall.attribute?, isPath, isMarker,
    Script.ofTemplate]

namespace Interpreter

variable {interpreter : Interpreter}

/-- A call without attributes of a macro without parameters expands the body in a fresh scope
inside. -/
theorem runScript_ofNodes
    (expand : Expander)
    (marker : String)
    (nodes : List Node)
    {call : MacroCall}
    (noAttributes : call.attributes = [])
    (scope : Scope) :
    interpreter.runScript expand
        ((UserMacro.ofNodes marker nodes).toRule.script interpreter.sources call scope) =
      (do
        let result ← expand (Node.replaceMarkers marker call.children nodes) scope.child
        return (result.1, scope)) := by
  rw [runScript_toRule, noAttributes]
  rfl

/-- To insert a template is to read it and to expand its nodes in a fresh scope inside. -/
theorem runScript_ofTemplate
    (expand : Expander)
    (template marker : String)
    (content : List Node)
    (scope : Scope) :
    interpreter.runScript expand (.ofTemplate template marker content scope) =
      (do
        let nodes ← interpreter.loadTemplate template
        let result ←
          Expansion.importing template
            (expand (Node.replaceMarkers marker content nodes) scope.child)
        return (result.1, scope)) := by
  simp only [Script.ofTemplate, runScript, insertTemplate_eq, bind_assoc, pure_bind]

/-- What is expanded inside of a template comes to what it comes to outside of it, unless some
template is expanded again on the way. -/
theorem agrees_importing
    {template : String}
    {nodes : List Node}
    {scope : Scope}
    {progress : Progress}
    {journal : Journal}
    (calls : progress.journal.SameCalls journal)
    (noCycle :
      ¬Outcome.IsImportCycle
          (Expansion.importing template (interpreter.expandNodes nodes scope)
            { progress with journal })) :
    Outcome.Agrees
      (Expansion.importing template (interpreter.expandNodes nodes scope) { progress with journal })
      (interpreter.expandNodes nodes scope progress) := by
  have related :
      progress.IsEnclosed ⟨progress.imports, template, False⟩ []
        { progress with imports := progress.imports ++ [template], journal } :=
    { macros := rfl
      styles := rfl
      depth := rfl
      charged := rfl
      path := rfl
      imports := (List.append_nil _).symm
      imports' := rfl
      calls
      sameLog := False.elim }
  have effects {after after' : Progress}
      (related : after.IsEnclosed ⟨progress.imports, template, False⟩ [] after') :
      { after' with imports := after'.imports.dropLast }.SameEffects after :=
    ⟨fun name => congrArg (NameTable.find? · name) related.macros.symm, related.styles.symm,
      related.calls.symm⟩
  have ends := @isEnclosed_expandNodes _ interpreter nodes scope [] _ _ related
  unfold Expansion.importing at noCycle ⊢
  dsimp only at noCycle ⊢
  generalize interpreter.expandNodes nodes scope progress = result,
    interpreter.expandNodes nodes scope
      { progress with imports := progress.imports ++ [template], journal } = result' at *
  cases ends with
  | ok related =>
      exact .ok rfl (effects related)
  | @error problem problem' after after' given related =>
      refine .error ⟨?_, given.attributeName.symm⟩ (effects related)
      obtain ⟨same, _, _⟩ := given
      generalize problem.problem = own, isProblem : problem'.problem = own' at same
      cases same with
      | same =>
          rfl
      | cycle inner =>
          exact absurd ⟨_, isProblem⟩ noCycle
  | reentered reenters =>
      obtain ⟨between, cycle⟩ := reenters
      exact absurd ⟨_, cycle⟩ noCycle

/-- A template is inserted as the macro that its nodes are the body of is called, unless some
template is expanded again on the way. -/
theorem agrees_ofTemplate
    {template : String}
    {nodes : List Node}
    (loads : interpreter.Loads template nodes)
    {marker : String}
    {content : List Node}
    {scope : Scope}
    {progress : Progress}
    (noCycle :
      ¬Outcome.IsImportCycle
          (interpreter.runScript interpreter.expandNodes
            (.ofTemplate template marker content scope) progress))
    {call : MacroCall}
    (noAttributes : call.attributes = [])
    (isContent : call.children = content) :
    Outcome.Agrees
      (interpreter.runScript interpreter.expandNodes (.ofTemplate template marker content scope)
        progress)
      (interpreter.runScript interpreter.expandNodes
        ((UserMacro.ofNodes marker nodes).toRule.script interpreter.sources call scope)
        progress) := by
  obtain ⟨source, found, read⟩ := loads
  rw [runScript_ofNodes _ _ _ noAttributes, isContent, Outcome.adapt_of_bind]
  rw [runScript_ofTemplate, bind_apply, loadTemplate_apply, found] at noCycle ⊢
  by_cases entered : template ∈ progress.imports
  · rw [if_pos entered] at noCycle
    exact absurd ⟨_, rfl⟩ noCycle
  · rw [if_neg entered] at noCycle ⊢
    simp only [read, Outcome.adapt_of_bind, Outcome.isImportCycle_adapt] at noCycle ⊢
    have calls : progress.journal.SameCalls
        (progress.journal.record .debug ("importing `" ++ template ++ "`")) := rfl
    exact (agrees_importing calls noCycle).adapt _ fun _ _ => id

/-- Whether a node is a call, in a state, that inserts a template: the path and the marker are
written out, and the nodes inside are the content. -/
structure IsInsertion
    (interpreter : Interpreter)
    (progress : Progress)
    (template marker : String)
    (content : List Node)
    (node : Node) :
    Prop where
  isCall : interpreter.isMacroCall progress node = true
  found : interpreter.findMacro? progress node.name = some StandardMacro.template
  asWritten : ∀ entry ∈ node.attributes, Text.openBrace ∉ entry.value.toList
  path : node.attribute? "path" = some template
  marker : (node.attribute? "replace").getD StandardMacro.defaultMarker = marker
  content : node.children = content

/-- Whether a node is a call, in a state, of a macro of the document, without attributes and with
content inside. -/
structure IsPlainCall
    (interpreter : Interpreter)
    (progress : Progress)
    (definition : UserMacro)
    (content : List Node)
    (node : Node) :
    Prop where
  isCall : interpreter.isMacroCall progress node = true
  found : interpreter.findMacro? progress node.name = some definition.toRule
  noAttributes : node.attributes = []
  content : node.children = content

/-- The state in which a call that is let in is carried out. -/
def entering (interpreter : Interpreter) (progress : Progress) (name : String) : Progress :=
  let path := interpreter.macroPath progress.path name
  { progress with
    path
    depth := progress.depth + 1
    journal := progress.journal.record .debug ("expanding macro at " ++ path.render) }

/-- A call that is let in is carried out with its attributes as they are written, if none of them
has a brace. -/
theorem expandNode_of_openBrace
    {progress : Progress}
    {node : Node}
    {rule : MacroRule}
    (isCall : interpreter.isMacroCall progress node = true)
    (found : interpreter.findMacro? progress node.name = some rule)
    (shallow : progress.depth < interpreter.settings.maxDepth)
    (asWritten : ∀ entry ∈ node.attributes, Text.openBrace ∉ entry.value.toList)
    (scope : Scope) :
    interpreter.expandNode node scope progress =
      Outcome.adapt id
        (fun after => { after with depth := after.depth - 1, path := progress.path })
        (interpreter.runScript interpreter.expandNodes
          (rule.script interpreter.sources
            ⟨node.name, node.attributes, node.children, node.text,
              interpreter.macroPath progress.path node.name⟩
            scope)
          (interpreter.entering progress node.name)) := by
  have prepared (path : TagPath) :
      interpreter.prepareCall rule node scope path { progress with path } =
        .ok ⟨node.name, node.attributes, node.children, node.text, path⟩
          { progress with
            path
            journal :=
              progress.journal.record .debug ("expanding macro at " ++ path.render) } := by
    rw [prepareCall, interpolateAttributes_of_openBrace asWritten, ite_self]
    rfl
  obtain ⟨_, body⟩ := interpreter.exists_expands_perform 1 (.script rule _) _
  exact (Expands.called isCall found shallow (prepared _) body).perform_eq

/-- A call of a macro without parameters comes to the same at another place, unless it stops at a
limit. -/
theorem agrees_ofNodes
    (standard : interpreter.vocabulary = .standard)
    {progress progress' : Progress}
    (related : progress.Mirrors .ofPlaces progress')
    {marker : String}
    {nodes : List Node}
    {call call' : MacroCall}
    (noAttributes : call.attributes = [])
    (noAttributes' : call'.attributes = [])
    (sameContent : call.children = call'.children)
    {scope : Scope}
    (noLimit :
      ¬Outcome.IsLimit
          (interpreter.runScript interpreter.expandNodes
            ((UserMacro.ofNodes marker nodes).toRule.script interpreter.sources call scope)
            progress)) :
    Outcome.Agrees
      (interpreter.runScript interpreter.expandNodes
        ((UserMacro.ofNodes marker nodes).toRule.script interpreter.sources call scope) progress)
      (interpreter.runScript interpreter.expandNodes
        ((UserMacro.ofNodes marker nodes).toRule.script interpreter.sources call' scope)
        progress') := by
  rw [runScript_ofNodes _ _ _ noAttributes, Outcome.adapt_of_bind, Outcome.isLimit_adapt]
    at noLimit
  rw [runScript_ofNodes _ _ _ noAttributes, runScript_ofNodes _ _ _ noAttributes',
    Outcome.adapt_of_bind, Outcome.adapt_of_bind, ← sameContent]
  have body := mirrored_perform (allows_ofPlaces standard)
    (.forest (.ofPlaces (Node.replaceMarkers marker call.children nodes)) scope.child) related
    (.inr noLimit)
  exact (Expansion.MirroredResults.agrees body).adapt _ fun _ _ => id

/-- The states in which two calls are carried out differ in their places only. -/
theorem mirrors_entering
    {progress : Progress}
    (defines : progress.DefinesUserMacros)
    (name name' : String) :
    (interpreter.entering progress name).Mirrors .ofPlaces
      (interpreter.entering progress name') :=
  { Progress.Mirrors.ofPlaces defines with
    calls := rfl
    depth := Nat.le_refl _
    sameDepth := fun _ => rfl
    samePath := False.elim
    sameLog := False.elim }

/-- A call that inserts a template comes to what one of the macro of its nodes comes to, unless it
stops at a limit, or some template is expanded again on the way. -/
theorem agrees_expandNode
    (standard : interpreter.vocabulary = .standard)
    {progress : Progress}
    (defines : progress.DefinesUserMacros)
    {template : String}
    {nodes : List Node}
    (loads : interpreter.Loads template nodes)
    {marker : String}
    {content : List Node}
    {inserting calling : Node}
    (inserts : interpreter.IsInsertion progress template marker content inserting)
    (calls : interpreter.IsPlainCall progress (.ofNodes marker nodes) content calling)
    {scope : Scope}
    (noLimit : ¬Outcome.IsLimit (interpreter.expandNode inserting scope progress))
    (noCycle : ¬Outcome.IsImportCycle (interpreter.expandNode inserting scope progress)) :
    Outcome.Agrees (interpreter.expandNode inserting scope progress)
      (interpreter.expandNode calling scope progress) := by
  by_cases shallow : progress.depth < interpreter.settings.maxDepth
  · have inserted := expandNode_of_openBrace inserts.isCall inserts.found shallow
      inserts.asWritten scope
    have called := expandNode_of_openBrace calls.isCall calls.found shallow
      (by simp [calls.noAttributes]) scope
    rw [StandardMacro.script_template inserts.path inserts.marker] at inserted
    rw [inserted, Outcome.isLimit_adapt] at noLimit
    rw [inserted, Outcome.isImportCycle_adapt] at noCycle
    rw [inserted, called]
    refine Outcome.Agrees.adapt ?_ id fun _ _ same => ⟨same.macros, same.styles, same.calls⟩
    -- At the place of the insertion, the macro comes to the same, and so it does at its own.
    have beside := @agrees_ofTemplate interpreter template nodes loads marker _ scope _ noCycle
      ⟨calling.name, calling.attributes, calling.children, calling.text, .root⟩ calls.noAttributes
      (calls.content.trans inserts.content.symm)
    exact beside.trans
      (agrees_ofNodes standard (mirrors_entering defines _ _) calls.noAttributes
        calls.noAttributes rfl fun isLimit => noLimit (beside.isLimit isLimit))
  · have refused := @Expands.refused interpreter 0 inserting scope _ _ inserts.isCall
      inserts.found (Nat.le_of_not_lt shallow)
    rw [show interpreter.expandNode inserting scope _ = _ from refused.perform_eq] at noLimit
    exact absurd rfl noLimit

/--
To insert a template is to call a macro without parameters. For every template that reads as nodes,
every marker, content, scope and state: the script that inserts the template comes to what a call
without attributes comes to of the macro of those nodes, with the same content inside: to the same
nodes and scope, or the same problem, and to the same macros, styles and actions, unless it fails
because some template is expanded again. With the macros of the language, so it is where a node that
inserts the template and one that calls the macro stand for the scripts, unless the first stops at a
limit.
-/
theorem insertTemplate_agrees
    {template : String}
    {nodes : List Node}
    (loads : interpreter.Loads template nodes)
    (marker : String)
    (content : List Node)
    (scope : Scope)
    (progress : Progress) :
    (∀ call : MacroCall, call.attributes = [] → call.children = content →
      let inserted : Outcome :=
        interpreter.runScript interpreter.expandNodes (.ofTemplate template marker content scope)
          progress
      ¬inserted.IsImportCycle →
        inserted.Agrees
          (interpreter.runScript interpreter.expandNodes
            ((UserMacro.ofNodes marker nodes).toRule.script interpreter.sources call scope)
            progress)) ∧
    (interpreter.vocabulary = .standard → progress.DefinesUserMacros →
      ∀ inserting calling : Node,
        interpreter.IsInsertion progress template marker content inserting →
          interpreter.IsPlainCall progress (.ofNodes marker nodes) content calling →
            let inserted : Outcome := interpreter.expandNode inserting scope progress
            ¬inserted.IsLimit → ¬inserted.IsImportCycle →
              inserted.Agrees (interpreter.expandNode calling scope progress)) := by
  constructor
  · intro call noAttributes isContent inserted noCycle
    exact agrees_ofTemplate loads noCycle noAttributes isContent
  · intro standard defines inserting calling inserts calls inserted noLimit noCycle
    exact agrees_expandNode standard defines loads inserts calls noLimit noCycle

/-- A group around a place for content. -/
def groupAroundSlot : Node where
  name := "group"
  children := [{ name := "slot", isMacro := true, position := ⟨1, 8⟩ }]
  position := ⟨1, 1⟩

/-- A label is put into a group by a template, and by a macro with the nodes of the template. -/
theorem insertTemplate_agrees_group :
    let interpreter : Interpreter :=
      { vocabulary := .standard
        templates := .ofPairs [("box", "<group><:slot/></group>")] }
    let progress : Progress :=
      { interpreter.beginning [] with
        macros := NameTable.insert {} "boxed" (UserMacro.ofNodes "slot" [groupAroundSlot]).toRule }
    let inserting : Node :=
      { name := "import", isMacro := true, attributes := [⟨"path", "box"⟩, ⟨"replace", "slot"⟩],
        children := [{ name := "label" }] }
    let calling : Node :=
      { name := "boxed", isMacro := true, children := [{ name := "label" }] }
    interpreter.Loads "box" [groupAroundSlot] ∧
      ∃ nodes scope after after',
        interpreter.expandNode inserting .empty progress = .ok (nodes, scope) after ∧
          interpreter.expandNode calling .empty progress = .ok (nodes, scope) after' ∧
          after.SameEffects after' ∧
          nodes.map (fun node => node.children.map Node.name) = [["label"]] := by
  intro interpreter progress inserting calling
  have loads : interpreter.Loads "box" [groupAroundSlot] :=
    ⟨"<group><:slot/></group>", by decide +kernel, by decide +kernel⟩
  have defines : progress.DefinesUserMacros :=
    (Progress.definesUserMacros_beginning interpreter []).insert "boxed" _
  have found (name : String) :
      interpreter.findMacro? progress name =
        if Text.sameName "boxed" name then
          some (UserMacro.ofNodes "slot" [groupAroundSlot]).toRule
        else
          Vocabulary.standard.macroRule? name := by
    rw [findMacro?, NameTable.find?_insert]
    by_cases same : Text.sameName "boxed" name = true
    · rw [if_pos same, if_pos same]
    · rw [if_neg same, if_neg same]
      rfl
  have template : Vocabulary.standard.macroRule? "import" = some StandardMacro.template :=
    Vocabulary.macroRule?_standard_of_mem
      (by simp [StandardMacro.all] : (["import", "include"], StandardMacro.template) ∈ _)
      (by decide +kernel)
  have inserts : interpreter.IsInsertion progress "box" "slot" [{ name := "label" }] inserting :=
    { isCall := rfl
      found := (found "import").trans ((if_neg (by decide +kernel)).trans template)
      asWritten := by decide +kernel
      path := by decide +kernel
      marker := by decide +kernel
      content := rfl }
  have calls :
      interpreter.IsPlainCall progress (.ofNodes "slot" [groupAroundSlot]) [{ name := "label" }]
        calling :=
    { isCall := rfl
      found := (found "boxed").trans (if_pos (by decide +kernel))
      noAttributes := rfl
      content := rfl }
  have shown :
      Outcome.seen? (fun value _ => value.1.map fun node => node.children.map Node.name)
          (interpreter.expandNode inserting .empty progress) =
        some [["label"]] := by
    decide +kernel
  obtain ⟨⟨nodes, scope⟩, after, ran, labels⟩ := Outcome.exists_ok_of_seen shown
  have agrees := (insertTemplate_agrees loads "slot" [{ name := "label" }] .empty progress).2 rfl
    defines inserting calling inserts calls
  rw [ran] at agrees ⊢
  have agrees := agrees id id
  generalize interpreter.expandNode calling .empty progress = called at agrees ⊢
  cases agrees with
  | ok given effects =>
      cases given
      exact ⟨loads, _, _, _, _, rfl, rfl, effects, labels⟩

end Interpreter

end WidgetMarkup
