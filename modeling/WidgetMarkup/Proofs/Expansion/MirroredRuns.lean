import WidgetMarkup.Proofs.Expansion.ImportChain
import WidgetMarkup.Proofs.Expansion.RaisedLimits
import WidgetMarkup.Proofs.Expansion.UniformFilling
import WidgetMarkup.Proofs.Vocabulary.MirroredScripts

namespace WidgetMarkup

open Markup
open Expansion (Event IsUniform Outcome Task)
open Node (AreMirrored)

/-!
# Runs that differ in marks or places

Two expansions of forests that are mirrored go through the same history. Where they keep in step, so
does all that comes of it. Where they do not, the second one is no deeper and has spent no more, so
that it gets as far as the first one does, unless that stops at a limit.
-/

variable {variation : Variation}

/-- Whether two expansions have come equally far, but for marks in the macros that are defined; the
second may be less deep and have spent less, on another path, unless they keep in step. -/
structure Progress.Mirrors (variation : Variation) (progress progress' : Progress) : Prop where
  macros :
    ∀ name,
      Option.Rel (MacroRule.Mirrors variation) (progress.macros.find? name)
        (progress'.macros.find? name)
  styles : progress.styles = progress'.styles
  imports : progress.imports = progress'.imports
  calls : progress.journal.SameCalls progress'.journal
  depth : progress'.depth ≤ progress.depth
  charged : progress'.charged ≤ progress.charged
  sameDepth : variation.inStep → progress.depth = progress'.depth
  sameCharged : variation.inStep → progress.charged = progress'.charged
  samePath : variation.inStep → progress.path = progress'.path
  sameLog : variation.inStep → progress.journal = progress'.journal

/-- Whether two problems are the same, at one place if the runs keep in step. -/
structure LocatedProblem.Mirrors
    (variation : Variation)
    (first second : LocatedProblem) :
    Prop where
  problem : first.problem = second.problem
  attributeName : first.attributeName = second.attributeName
  samePath : variation.inStep → first.path = second.path

namespace Progress.Mirrors

/-- A state is mirrored by itself if the macros are that documents have defined. -/
theorem refl
    {progress : Progress}
    (defines : progress.DefinesUserMacros)
    (rules :
      ∀ name (definition : UserMacro), progress.macros.find? name = some definition.toRule →
        definition.toRule.Mirrors variation definition.toRule) :
    progress.Mirrors variation progress where
  macros name := by
    cases found : progress.macros.find? name with
    | none =>
        exact .none
    | some rule =>
        obtain ⟨definition, rfl⟩ := defines name rule found
        exact .some (rules name definition found)
  styles := rfl
  imports := rfl
  calls := rfl
  depth := Nat.le_refl _
  charged := Nat.le_refl _
  sameDepth _ := rfl
  sameCharged _ := rfl
  samePath _ := rfl
  sameLog _ := rfl

/-- On paths that are the same if the runs keep in step, states are mirrored again. -/
theorem atPath
    {progress progress' : Progress}
    (related : progress.Mirrors variation progress')
    {path path' : TagPath}
    (samePath : variation.inStep → path = path') :
    { progress with path }.Mirrors variation { progress' with path := path' } :=
  { related with samePath }

theorem called
    {progress progress' : Progress}
    (related : progress.Mirrors variation progress') :
    { progress with depth := progress.depth + 1 }.Mirrors variation
      { progress' with depth := progress'.depth + 1 } :=
  { related with
    depth := Nat.succ_le_succ related.depth
    sameDepth := fun inStep => congrArg (· + 1) (related.sameDepth inStep) }

theorem returned
    {progress progress' : Progress}
    (related : progress.Mirrors variation progress') :
    { progress with depth := progress.depth - 1 }.Mirrors variation
      { progress' with depth := progress'.depth - 1 } :=
  { related with
    depth := Nat.sub_le_sub_right related.depth 1
    sameDepth := fun inStep => congrArg (· - 1) (related.sameDepth inStep) }

theorem importing
    {progress progress' : Progress}
    (related : progress.Mirrors variation progress')
    (template : String) :
    { progress with imports := progress.imports ++ [template] }.Mirrors variation
      { progress' with imports := progress'.imports ++ [template] } :=
  { related with imports := congrArg (· ++ [template]) related.imports }

theorem imported
    {progress progress' : Progress}
    (related : progress.Mirrors variation progress') :
    { progress with imports := progress.imports.dropLast }.Mirrors variation
      { progress' with imports := progress'.imports.dropLast } :=
  { related with imports := congrArg List.dropLast related.imports }

end Progress.Mirrors

namespace Expansion

/-- Whether two results of an expansion are mirrored. -/
abbrev MirroredResults
    {α : Type}
    (variation : Variation)
    (values : α → α → Prop) :
    EStateM.Result LocatedProblem Progress α → EStateM.Result LocatedProblem Progress α → Prop :=
  ParallelResults (LocatedProblem.Mirrors variation) (Progress.Mirrors variation) values

/-- Whether two parts of expansions, begun in mirrored states, give mirrored results. -/
abbrev Mirrored
    {α : Type}
    (variation : Variation)
    (values : α → α → Prop)
    (first second : Expansion α) :
    Prop :=
  WidgetMarkup.Parallel (LocatedProblem.Mirrors variation) (Progress.Mirrors variation) values
    first second

namespace Mirrored

variable {α : Type}

theorem fail
    {values : α → α → Prop}
    (problem : Problem) :
    Mirrored variation values (Expansion.fail problem) (Expansion.fail problem) :=
  fun _ _ related => .error ⟨rfl, rfl, related.samePath⟩ related

theorem record
    (level : LogLevel)
    {text text' : String}
    (told : variation.inStep → text = text') :
    Mirrored variation Eq (Expansion.record level text) (Expansion.record level text') := by
  refine .modify fun _ _ related => { related with calls := related.calls, sameLog := ?_ }
  intro inStep
  rw [related.sameLog inStep, told inStep]

/-- Macros that are mirrored are defined under the same name. -/
theorem defining
    (name : String)
    {rule rule' : MacroRule}
    (rules : rule.Mirrors variation rule') :
    Mirrored variation Eq
      (modify fun progress => { progress with macros := progress.macros.insert name rule } :
        Expansion Unit)
      (modify fun progress => { progress with macros := progress.macros.insert name rule' }) := by
  refine .modify fun before before' related => { related with macros := fun found => ?_ }
  rw [NameTable.find?_insert, NameTable.find?_insert]
  split
  · exact .some rules
  · exact related.macros found

theorem styling
    (tag : String)
    (entry : Attribute) :
    Mirrored variation Eq
      (modify fun progress => { progress with styles := progress.styles.add tag entry } :
        Expansion Unit)
      (modify fun progress => { progress with styles := progress.styles.add tag entry }) :=
  .modify fun _ _ related => { related with styles := congrArg (·.add tag entry) related.styles }

/-- What does the same in all states does so in mirrored ones. -/
theorem ofUniform
    {inner : Expansion α}
    (isUniform : inner.IsUniform) :
    Mirrored variation Eq inner inner := by
  intro progress progress' related
  have ends := isUniform.results variation.inStep related.calls related.sameLog
  have states {after after' : Progress}
      (between : OnlyJournals variation.inStep progress progress' after after') :
      after.Mirrors variation after' := by
    obtain ⟨⟨_, rfl⟩, ⟨_, rfl⟩, calls, sameLog⟩ := between
    exact { related with calls, sameLog }
  generalize inner progress = result, inner progress' = result' at ends
  cases ends with
  | ok given between =>
      exact .ok given (states between)
  | error given between =>
      refine .error ⟨given.problem, given.attributeName, fun inStep => ?_⟩ (states between)
      rw [given.firstPath, given.secondPath, related.samePath inStep]

end Mirrored

/-- Mirrored outcomes that are changed in the same way are mirrored. -/
theorem MirroredResults.adapt
    {outcome outcome' : Outcome}
    (results : MirroredResults variation Eq outcome outcome')
    (give : List Node × Scope → List Node × Scope)
    {restore restore' : Progress → Progress}
    (restores :
      ∀ after after', after.Mirrors variation after' →
        (restore after).Mirrors variation (restore' after')) :
    MirroredResults variation Eq (outcome.adapt give restore) (outcome'.adapt give restore') := by
  cases results with
  | ok given between =>
      exact .ok (congrArg give given) (restores _ _ between)
  | error given between =>
      exact .error given (restores _ _ between)

/-- Tasks that are the same but for marks and places. -/
inductive Task.Mirrors (variation : Variation) : Task → Task → Prop where
  | forest
      {nodes nodes' : List Node}
      (mirrored : Node.AreMirrored variation nodes nodes')
      (scope : Scope) :
      Mirrors variation (.forest nodes scope) (.forest nodes' scope)
  | node
      {node node' : Node}
      (mirrored : Node.AreMirrored variation [node] [node'])
      (scope : Scope) :
      Mirrors variation (.node node scope) (.node node' scope)
  | script
      {script script' : Script}
      (rule rule' : MacroRule)
      (scripts : script.Mirrors variation script') :
      Mirrors variation (.script rule script) (.script rule' script')

namespace Task.Mirrors

variable {task : Task}

theorem of_cons
    {node : Node}
    {rest : List Node}
    {scope : Scope}
    (tasks : (Task.forest (node :: rest) scope).Mirrors variation task) :
    ∃ node' rest',
      task = .forest (node' :: rest') scope ∧
        Node.AreMirrored variation [node] [node'] ∧ Node.AreMirrored variation rest rest' := by
  cases tasks with
  | @forest _ nodes' mirrored =>
      cases nodes' with
      | nil =>
          cases mirrored.remarked
      | cons node' rest' =>
          exact ⟨node', rest', rfl, mirrored.singleton, mirrored.of_cons.2⟩

theorem of_node
    {node : Node}
    {scope : Scope}
    (tasks : (Task.node node scope).Mirrors variation task) :
    ∃ node', task = .node node' scope ∧ Node.AreMirrored variation [node] [node'] := by
  cases tasks with
  | node mirrored =>
      exact ⟨_, rfl, mirrored⟩

theorem of_script
    {rule : MacroRule}
    {script : Script}
    (tasks : (Task.script rule script).Mirrors variation task) :
    ∃ rule' script', task = .script rule' script' ∧ script.Mirrors variation script' := by
  cases tasks with
  | script _ rule' scripts =>
      exact ⟨rule', _, rfl, scripts⟩

end Task.Mirrors

end Expansion

open Expansion (Mirrored MirroredResults)

namespace Interpreter

variable {interpreter : Interpreter}

/-- Whether marks may vary as told: on names of macros only, which mean no tag and no `else`, and
which are no marker for content of a macro that is defined in a template. -/
structure Allows (interpreter : Interpreter) (variation : Variation) : Prop where
  standard : interpreter.vocabulary = .standard
  isMacro :
    ∀ name, variation.marks name → (interpreter.vocabulary.macroRule? name).isSome = true
  noTag : ∀ name, variation.marks name → interpreter.vocabulary.tag? name = none
  noElse :
    ∀ name, variation.marks name → Text.sameName name StandardMacro.elseName = false
  templates :
    ∀ template nodes, interpreter.Loads template nodes → AreMirrored variation nodes nodes

/-- Whether the rules that are found for a name are mirrored: those of two macros of documents, or
one rule of the vocabulary. -/
def MirroredRules
    (interpreter : Interpreter)
    (variation : Variation)
    (name : String)
    (rule rule' : MacroRule) :
    Prop :=
  rule.Mirrors variation rule' ∨
    rule = rule' ∧ interpreter.vocabulary.macroRule? name = some rule

theorem mirrored_findMacro?
    (interpreter : Interpreter)
    {progress progress' : Progress}
    (related : progress.Mirrors variation progress')
    (name : String) :
    Option.Rel (interpreter.MirroredRules variation name) (interpreter.findMacro? progress name)
      (interpreter.findMacro? progress' name) := by
  unfold findMacro?
  have found := related.macros name
  generalize progress.macros.find? name = own, progress'.macros.find? name = own' at found
  cases found with
  | some rules =>
      exact .some (.inl rules)
  | none =>
      dsimp only
      cases known : interpreter.vocabulary.macroRule? name with
      | none =>
          exact .none
      | some rule =>
          exact .some (.inr ⟨rfl, known⟩)

theorem findMacro?_eq_none_of_mirrored
    {progress progress' : Progress}
    (related : progress.Mirrors variation progress')
    {name : String}
    (found : interpreter.findMacro? progress name = none) :
    interpreter.findMacro? progress' name = none := by
  have rules := interpreter.mirrored_findMacro? related name
  rw [found] at rules
  generalize interpreter.findMacro? progress' name = own' at rules
  cases rules
  rfl

theorem findMacro?_eq_some_of_mirrored
    {progress progress' : Progress}
    (related : progress.Mirrors variation progress')
    {name : String}
    {rule : MacroRule}
    (found : interpreter.findMacro? progress name = some rule) :
    ∃ rule',
      interpreter.findMacro? progress' name = some rule' ∧
        interpreter.MirroredRules variation name rule rule' := by
  have rules := interpreter.mirrored_findMacro? related name
  rw [found] at rules
  generalize interpreter.findMacro? progress' name = own' at rules
  cases rules with
  | some rules =>
      exact ⟨_, rfl, rules⟩

theorem MirroredRules.interpolates
    {name : String}
    {rule rule' : MacroRule}
    (rules : interpreter.MirroredRules variation name rule rule') :
    rule.interpolates = rule'.interpolates := by
  rcases rules with defined | ⟨rfl, _⟩
  · rw [defined.interpolates.1, defined.interpolates.2]
  · rfl

/-- Marked or not, a tag whose marks may vary is a macro call. -/
theorem isMacroCall_of_marks
    (allows : interpreter.Allows variation)
    {node : Node}
    (varies : variation.marks node.name)
    (progress : Progress) :
    interpreter.isMacroCall progress node = true := by
  have isFound : (interpreter.findMacro? progress node.name).isSome = true := by
    unfold findMacro?
    split
    · rfl
    · exact allows.isMacro _ varies
  rw [isMacroCall, isFound, allows.noTag _ varies]
  exact Bool.or_true _

theorem isMacroCall_mirrored
    (allows : interpreter.Allows variation)
    {progress progress' : Progress}
    (related : progress.Mirrors variation progress')
    {node node' : Node}
    (remarked : node.IsRemarking variation.marks node') :
    interpreter.isMacroCall progress node = interpreter.isMacroCall progress' node' := by
  rcases remarked.isMacro with same | varies
  · have found := interpreter.mirrored_findMacro? related node.name
    unfold isMacroCall
    rw [same, ← remarked.name]
    generalize interpreter.findMacro? progress node.name = own,
      interpreter.findMacro? progress' node.name = own' at found
    cases found <;> rfl
  · rw [isMacroCall_of_marks allows varies, isMacroCall_of_marks allows (remarked.name ▸ varies)]

/-- Rules that are found for a name act alike on mirrored calls. -/
theorem MirroredRules.script
    (allows : interpreter.Allows variation)
    {node node' : Node}
    (mirrored : AreMirrored variation [node] [node'])
    {rule rule' : MacroRule}
    (rules : interpreter.MirroredRules variation node.name rule rule')
    {call call' : MacroCall}
    (calls : call.Mirrors variation call')
    (asWritten : rule.interpolates = false → call.attributes = node.attributes)
    (scope : Scope) :
    (rule.script interpreter.sources call scope).Mirrors variation
      (rule'.script interpreter.sources call' scope) := by
  rcases rules with defined | ⟨rfl, known⟩
  · exact defined.script interpreter.sources calls scope
  · rw [allows.standard] at known
    obtain ⟨entry, listed, named, rfl⟩ := Vocabulary.exists_of_macroRule?_standard known
    rcases StandardMacro.mirrors_of_mem_all allows.noElse entry listed with rfl | mirrors
    · refine StandardMacro.mirrors_define interpreter.sources scope calls ?_
      refine mirrored.spared node (.root (List.mem_cons_self ..)) _ ?_
      unfold Node.definedMarker? StandardMacro.definedMarker MacroCall.attribute?
      rw [if_pos (Text.sameName_iff.2 (Text.sameName_iff.1 ?_).symm), asWritten rfl]
      · rfl
      · simpa [Declaration.lists] using named
    · exact mirrors interpreter.sources call call' scope calls

theorem mirrored_prepareTag
    {node node' : Node}
    (remarked : node.IsRemarking variation.marks node')
    (scope : Scope) :
    Mirrored variation Eq (interpreter.prepareTag node scope)
      (interpreter.prepareTag node' scope) := by
  unfold prepareTag
  rw [← remarked.attributes, ← remarked.hasText, ← remarked.text, ← remarked.name]
  refine .bind_eq (Mirrored.ofUniform (isUniform_interpolateAttributes scope _)) fun filled => ?_
  refine .get_bind fun progress progress' related => ?_
  rw [related.styles]
  split
  · exact .bind_eq (Mirrored.ofUniform (isUniform_interpolate scope _)) fun text => .pure rfl
  · exact .pure rfl

theorem mirrored_prepareCall
    {rule rule' : MacroRule}
    (interpolates : rule.interpolates = rule'.interpolates)
    {node node' : Node}
    (mirrored : AreMirrored variation [node] [node'])
    (scope : Scope)
    {path path' : TagPath}
    (samePath : variation.inStep → path = path') :
    Mirrored variation
      (fun call call' =>
        call.Mirrors variation call' ∧
          (rule.interpolates = false → call.attributes = node.attributes))
      (interpreter.prepareCall rule node scope path)
      (interpreter.prepareCall rule' node' scope path') := by
  have remarked := mirrored.of_cons.1
  have called (attributes : List Attribute) :
      MacroCall.Mirrors variation ⟨node.name, attributes, node.children, node.text, path⟩
        ⟨node'.name, attributes, node'.children, node'.text, path'⟩ :=
    ⟨remarked.name, rfl, mirrored.children, remarked.text, samePath⟩
  have told (inStep : variation.inStep) :
      "expanding macro at " ++ path.render = "expanding macro at " ++ path'.render := by
    rw [samePath inStep]
  unfold prepareCall
  rw [← interpolates, ← remarked.attributes]
  split
  · rename_i filledIn
    refine .bind_eq (Mirrored.ofUniform (isUniform_interpolateAttributes scope _)) ?_
    refine fun attributes => .bind_eq (Mirrored.record _ told) fun _ => ?_
    refine .pure ⟨called attributes, fun asWritten => ?_⟩
    cases filledIn.symm.trans asWritten
  · have asWritten :
        Mirrored variation (fun first second => first = node.attributes ∧ second = node.attributes)
          (pure node.attributes) (pure node.attributes) :=
      .pure ⟨rfl, rfl⟩
    refine asWritten.bind fun _ _ given => ?_
    obtain ⟨rfl, rfl⟩ := given
    exact .bind_eq (Mirrored.record _ told) fun _ => .pure ⟨called _, fun _ => rfl⟩

/-- A template is read in the same way in both expansions. -/
theorem mirrored_loadTemplate
    (template : String) :
    Mirrored variation Eq (interpreter.loadTemplate template)
      (interpreter.loadTemplate template) := by
  intro progress progress' related
  rw [loadTemplate_apply, loadTemplate_apply, related.imports]
  split
  · exact .error ⟨rfl, rfl, related.samePath⟩ related
  · split
    · exact .error ⟨rfl, rfl, related.samePath⟩ related
    · split
      · exact .error ⟨rfl, rfl, related.samePath⟩ related
      · refine .ok rfl { related with imports := rfl, calls := related.calls, sameLog := ?_ }
        exact fun inStep => congrArg (Journal.record · _ _) (related.sameLog inStep)

/-- A template is the same in both expansions, so that content stands in place of the same tags,
whatever the marker. -/
theorem mirrored_insertion
    (allows : interpreter.Allows variation)
    {template : String}
    {progress ready : Progress}
    {nodes content content' : List Node}
    (loaded : interpreter.loadTemplate template progress = .ok nodes ready)
    (marker : String)
    (contents : AreMirrored variation content content') :
    AreMirrored variation (Node.replaceMarkers marker content nodes)
      (Node.replaceMarkers marker content' nodes) := by
  have isTemplate := allows.templates template nodes (loadTemplate_eq_ok loaded).2.1
  refine isTemplate.replaceMarkers contents ?_
  have sameNodes : Node.AreRemarkings (fun _ => False) nodes nodes := .refl nodes
  exact contents.remarked.replaceMarkers (fun _ => False.elim) (fun _ => False.elim) sameNodes

/-- A step of a script without any nodes is taken in a mirrored script too. -/
theorem mirrored_step
    {script script' : Script}
    (scripts : script.Mirrors variation script')
    {inner : Expansion Script}
    (isStep : interpreter.step? script = some inner) :
    ∃ inner', interpreter.step? script' = some inner' ∧
      Mirrored variation (Script.Mirrors variation) inner inner' := by
  cases scripts <;> simp only [step?, Option.some.injEq, reduceCtorEq] at isStep <;> subst isStep
  case fail problem =>
    exact ⟨_, rfl, Mirrored.fail problem⟩
  case interpolate raw scope rest =>
    refine ⟨_, rfl, ?_⟩
    rw [map_eq_pure_bind, map_eq_pure_bind]
    exact .bind_eq (Mirrored.ofUniform (isUniform_interpolate scope raw)) fun text =>
      .pure (rest text)
  case evaluate source scope rest =>
    refine ⟨_, rfl, ?_⟩
    rw [map_eq_pure_bind, map_eq_pure_bind]
    exact .bind_eq (Mirrored.ofUniform (isUniform_evaluate scope source)) fun value =>
      .pure (rest value)
  case invoke reference rest =>
    refine ⟨_, rfl, ?_⟩
    rw [map_eq_pure_bind, map_eq_pure_bind]
    have isBlind := interpreter.actions.isBlind_invoke reference
    exact .bind_eq (Mirrored.ofUniform (.logged isBlind id)) fun answer => .pure (rest answer)
  case define name rules rest =>
    refine ⟨_, rfl, .bind_eq (Mirrored.record _ fun _ => rfl) fun _ => ?_⟩
    exact .bind_eq (Mirrored.defining name rules) fun _ => .pure rest
  case addDefault tag entry rest =>
    exact ⟨_, rfl, .bind_eq (Mirrored.styling tag entry) fun _ => .pure rest⟩
  case record level told rest =>
    exact ⟨_, rfl, .bind_eq (Mirrored.record level told) fun _ => .pure rest⟩

/-- What can be charged where more is spent can be charged. -/
theorem mirrored_charge_ok
    {progress progress' paid : Progress}
    (related : progress.Mirrors variation progress')
    (charged : interpreter.charge progress = .ok () paid) :
    ∃ paid', interpreter.charge progress' = .ok () paid' ∧ paid.Mirrors variation paid' := by
  obtain ⟨left, rfl⟩ := charge_eq_ok charged
  have fewer := related.charged
  refine ⟨{ progress' with charged := progress'.charged + 1 }, ?_, ?_⟩
  · rw [charge, Expansion.charge_apply]
    exact if_neg (by omega)
  · exact
      { related with
        calls := related.calls
        charged := Nat.succ_le_succ fewer
        sameCharged := fun inStep => congrArg (· + 1) (related.sameCharged inStep) }

/-- What cannot be charged where more is spent cannot be charged either if the runs keep in step. -/
theorem mirrored_charge_error
    {progress progress' after : Progress}
    {problem : LocatedProblem}
    (related : progress.Mirrors variation progress')
    (inStep : variation.inStep)
    (charged : interpreter.charge progress = .error problem after) :
    ∃ problem' after',
      interpreter.charge progress' = .error problem' after' ∧
        problem.Mirrors variation problem' ∧ after.Mirrors variation after' := by
  rw [charge, Expansion.charge_apply] at charged ⊢
  rw [← related.sameCharged inStep, ← related.samePath inStep]
  split at charged <;> cases charged
  rename_i spent
  rw [if_pos spent]
  refine ⟨_, _, rfl, ⟨rfl, rfl, fun _ => rfl⟩, ?_⟩
  exact
    { related with
      calls := related.calls
      charged := Nat.le_refl _
      sameCharged := fun _ => rfl
      samePath := fun _ => rfl }

theorem tagPath_mirrored
    {progress progress' : Progress}
    (related : progress.Mirrors variation progress')
    {node node' : Node}
    (remarked : node.IsRemarking variation.marks node')
    (inStep : variation.inStep) :
    progress.path.child node.name (node.attribute? "id") =
      progress'.path.child node'.name (node'.attribute? "id") := by
  rw [related.samePath inStep, remarked.name, remarked.attribute?]

theorem macroPath_mirrored
    {progress progress' : Progress}
    (related : progress.Mirrors variation progress')
    {node node' : Node}
    (remarked : node.IsRemarking variation.marks node')
    (inStep : variation.inStep) :
    interpreter.macroPath progress.path node.name =
      interpreter.macroPath progress'.path node'.name := by
  rw [related.samePath inStep, remarked.name]

/-- A macro call whose rule is found is mirrored by one whose rule is found. -/
theorem exists_mirrored_call
    (allows : interpreter.Allows variation)
    {progress progress' : Progress}
    (related : progress.Mirrors variation progress')
    {node : Node}
    {scope : Scope}
    {task' : Task}
    (tasks : (Task.node node scope).Mirrors variation task')
    {rule : MacroRule}
    (isCall : interpreter.isMacroCall progress node = true)
    (found : interpreter.findMacro? progress node.name = some rule) :
    ∃ node' rule',
      task' = .node node' scope ∧ AreMirrored variation [node] [node'] ∧
        interpreter.isMacroCall progress' node' = true ∧
        interpreter.findMacro? progress' node'.name = some rule' ∧
        interpreter.MirroredRules variation node.name rule rule' := by
  obtain ⟨node', rfl, isNode⟩ := tasks.of_node
  have remarked := isNode.of_cons.1
  obtain ⟨rule', found', rules⟩ := findMacro?_eq_some_of_mirrored related found
  rw [isMacroCall_mirrored allows related remarked] at isCall
  rw [remarked.name] at found'
  exact ⟨node', rule', rfl, isNode, isCall, found', rules⟩

/-- A history is mirrored by one of a task that is mirrored, unless the runs do not keep in step and
it ends at a limit. -/
theorem Expands.mirrored
    (allows : interpreter.Allows variation)
    {active : Nat}
    {task : Task}
    {progress : Progress}
    {events : List Event}
    {outcome : Outcome}
    (expands : interpreter.Expands active task progress events outcome)
    (reaches : variation.inStep ∨ ¬outcome.IsLimit)
    {task' : Task}
    {progress' : Progress}
    (tasks : task.Mirrors variation task')
    (related : progress.Mirrors variation progress')
    (active' : Nat) :
    ∃ events' outcome',
      interpreter.Expands active' task' progress' events' outcome' ∧
        MirroredResults variation Eq outcome outcome' := by
  -- What is done with an outcome neither makes it a limit nor keeps it from being one.
  have inside {give restore} {outcome : Outcome}
      (reaches : variation.inStep ∨ ¬(outcome.adapt give restore).IsLimit) :
      variation.inStep ∨ ¬outcome.IsLimit :=
    reaches.imp_right fun noLimit isLimit => noLimit (Outcome.isLimit_adapt.2 isLimit)
  induction expands generalizing task' progress' active' with
  | nothing =>
      cases tasks with
      | forest mirrored =>
          cases mirrored.remarked
          exact ⟨_, _, .nothing, .ok rfl related⟩
  | unpaid charged =>
      obtain ⟨node', rest', rfl, _, _⟩ := tasks.of_cons
      rcases reaches with inStep | noLimit
      · obtain ⟨_, _, charged', given, between⟩ := mirrored_charge_error related inStep charged
        exact ⟨_, _, .unpaid charged', .error given between⟩
      · exact absurd (congrArg Problem.isLimit (charge_eq_error charged)) noLimit
  | stopped charged _ first =>
      obtain ⟨node', rest', rfl, isNode, _⟩ := tasks.of_cons
      obtain ⟨paid', charged', paid⟩ := mirrored_charge_ok related charged
      obtain ⟨_, _, first', results⟩ := first reaches (.node isNode _) paid active'
      cases results with
      | error given between =>
          exact ⟨_, _, .stopped charged' first', .error given between⟩
  | visited charged _ _ first others =>
      obtain ⟨node', rest', rfl, isNode, areRest⟩ := tasks.of_cons
      obtain ⟨paid', charged', paid⟩ := mirrored_charge_ok related charged
      obtain ⟨_, _, first', results⟩ := first (.inr id) (.node isNode _) paid active'
      cases results with
      | ok given between =>
          cases given
          obtain ⟨_, _, others', results⟩ :=
            others (inside reaches) (.forest areRest _) between active'
          exact ⟨_, _, .visited charged' first' others', results.adapt _ fun _ _ => id⟩
  | unfilled isTag prepared =>
      obtain ⟨node', rfl, isNode⟩ := tasks.of_node
      have remarked := isNode.of_cons.1
      rw [isMacroCall_mirrored allows related remarked] at isTag
      obtain ⟨_, _, prepared', given, between⟩ := (mirrored_prepareTag remarked _).of_error
        (related.atPath (tagPath_mirrored related remarked)) prepared
      exact ⟨_, _, .unfilled isTag prepared', .error given (between.atPath related.samePath)⟩
  | tag isTag prepared _ children =>
      obtain ⟨node', rfl, isNode⟩ := tasks.of_node
      have remarked := isNode.of_cons.1
      rw [isMacroCall_mirrored allows related remarked] at isTag
      obtain ⟨_, _, prepared', rfl, between⟩ := (mirrored_prepareTag remarked _).of_ok
        (related.atPath (tagPath_mirrored related remarked)) prepared
      obtain ⟨_, _, children', results⟩ :=
        children (inside reaches) (.forest isNode.children _) between active'
      have made := Expands.tag isTag prepared' children'
      rw [← remarked.name, ← remarked.position] at made
      exact ⟨_, _, made, results.adapt _ fun _ _ later => later.atPath related.samePath⟩
  | unknown isCall found =>
      obtain ⟨node', rfl, isNode⟩ := tasks.of_node
      have remarked := isNode.of_cons.1
      rw [isMacroCall_mirrored allows related remarked] at isCall
      have found' := findMacro?_eq_none_of_mirrored related found
      rw [remarked.name] at found'
      refine ⟨_, _, .unknown isCall found', .error ⟨?_, rfl, ?_⟩ related⟩
      · exact congrArg Problem.unknownMacro remarked.name
      · exact macroPath_mirrored related remarked
  | refused isCall found deep =>
      obtain ⟨node', rule', rfl, isNode, isCall', found', _⟩ :=
        exists_mirrored_call allows related tasks isCall found
      have remarked := isNode.of_cons.1
      rcases reaches with inStep | noLimit
      · rw [related.sameDepth inStep] at deep
        exact ⟨_, _, .refused isCall' found' deep,
          .error ⟨rfl, rfl, macroPath_mirrored related remarked⟩ related⟩
      · exact absurd rfl noLimit
  | unprepared isCall found shallow prepared =>
      obtain ⟨node', rule', rfl, isNode, isCall', found', rules⟩ :=
        exists_mirrored_call allows related tasks isCall found
      have remarked := isNode.of_cons.1
      obtain ⟨_, _, prepared', given, between⟩ :=
        (mirrored_prepareCall rules.interpolates isNode _
          (macroPath_mirrored related remarked)).of_error
          (related.atPath (macroPath_mirrored related remarked)) prepared
      exact ⟨_, _, .unprepared isCall' found' (Nat.lt_of_le_of_lt related.depth shallow) prepared',
        .error given (between.atPath related.samePath)⟩
  | called isCall found shallow prepared _ body =>
      obtain ⟨node', rule', rfl, isNode, isCall', found', rules⟩ :=
        exists_mirrored_call allows related tasks isCall found
      have remarked := isNode.of_cons.1
      obtain ⟨call', _, prepared', ⟨calls, asWritten⟩, between⟩ :=
        (mirrored_prepareCall rules.interpolates isNode _
          (macroPath_mirrored related remarked)).of_ok
          (related.atPath (macroPath_mirrored related remarked)) prepared
      have scripts := rules.script allows isNode calls asWritten
      obtain ⟨_, _, body', results⟩ :=
        body (inside reaches) (.script _ rule' (scripts _)) between.called (active' + 1)
      have shallow' := Nat.lt_of_le_of_lt related.depth shallow
      exact ⟨_, _, .called isCall' found' shallow' prepared' body',
        results.adapt id fun _ _ later => later.returned.atPath related.samePath⟩
  | finished =>
      obtain ⟨rule', script', rfl, scripts⟩ := tasks.of_script
      cases scripts
      exact ⟨_, _, .finished, .ok rfl related⟩
  | unpaidIteration charged =>
      obtain ⟨rule', script', rfl, scripts⟩ := tasks.of_script
      rcases reaches with inStep | noLimit
      · obtain ⟨_, _, charged', given, between⟩ := mirrored_charge_error related inStep charged
        cases scripts
        exact ⟨_, _, .unpaidIteration charged', .error given between⟩
      · exact absurd (congrArg Problem.isLimit (charge_eq_error charged)) noLimit
  | iteration charged _ rest =>
      obtain ⟨rule', script', rfl, scripts⟩ := tasks.of_script
      obtain ⟨paid', charged', paid⟩ := mirrored_charge_ok related charged
      cases scripts with
      | charge next =>
          obtain ⟨_, _, rest', results⟩ := rest reaches (.script _ rule' next) paid active'
          exact ⟨_, _, .iteration charged' rest', results⟩
  | failedStep isStep ran =>
      obtain ⟨rule', script', rfl, scripts⟩ := tasks.of_script
      obtain ⟨inner', isStep', steps⟩ := mirrored_step scripts isStep
      obtain ⟨_, _, ran', given, between⟩ := steps.of_error related ran
      exact ⟨_, _, .failedStep isStep' ran', .error given between⟩
  | step isStep ran _ rest =>
      obtain ⟨rule', script', rfl, scripts⟩ := tasks.of_script
      obtain ⟨inner', isStep', steps⟩ := mirrored_step scripts isStep
      obtain ⟨_, _, ran', next, between⟩ := steps.of_ok related ran
      obtain ⟨_, _, rest', results⟩ := rest reaches (.script _ rule' next) between active'
      exact ⟨_, _, .step isStep' ran' rest', results⟩
  | failedPass _ pass =>
      obtain ⟨rule', script', rfl, scripts⟩ := tasks.of_script
      cases scripts with
      | expand mirrored _ _ =>
          obtain ⟨_, _, pass', results⟩ := pass reaches (.forest mirrored _) related active'
          cases results with
          | error given between =>
              exact ⟨_, _, .failedPass pass', .error given between⟩
  | pass _ _ pass rest =>
      obtain ⟨rule', script', rfl, scripts⟩ := tasks.of_script
      cases scripts with
      | expand mirrored _ next =>
          obtain ⟨_, _, pass', results⟩ := pass (.inr id) (.forest mirrored _) related active'
          cases results with
          | ok given between =>
              cases given
              obtain ⟨_, _, rest', results⟩ :=
                rest reaches (.script _ rule' (next _ _)) between active'
              exact ⟨_, _, .pass pass' rest', results⟩
  | unloaded loaded =>
      obtain ⟨rule', script', rfl, scripts⟩ := tasks.of_script
      cases scripts with
      | insertTemplate _ _ _ _ _ =>
          obtain ⟨_, _, loaded', given, between⟩ :=
            (mirrored_loadTemplate _).of_error related loaded
          exact ⟨_, _, .unloaded loaded', .error given between⟩
  | failedInsertion loaded _ pass =>
      obtain ⟨rule', script', rfl, scripts⟩ := tasks.of_script
      cases scripts with
      | insertTemplate _ _ content _ _ =>
          obtain ⟨_, _, loaded', rfl, between⟩ := (mirrored_loadTemplate _).of_ok related loaded
          obtain ⟨_, _, pass', results⟩ :=
            pass reaches (.forest (mirrored_insertion allows loaded _ content) _)
              (between.importing _) active'
          cases results with
          | error given between =>
              exact ⟨_, _, .failedInsertion loaded' pass', .error given between.imported⟩
  | insertion loaded _ _ pass rest =>
      obtain ⟨rule', script', rfl, scripts⟩ := tasks.of_script
      cases scripts with
      | insertTemplate _ _ content _ next =>
          obtain ⟨_, _, loaded', rfl, between⟩ := (mirrored_loadTemplate _).of_ok related loaded
          obtain ⟨_, _, pass', results⟩ :=
            pass (.inr id) (.forest (mirrored_insertion allows loaded _ content) _)
              (between.importing _) active'
          cases results with
          | ok given between =>
              cases given
              obtain ⟨_, _, rest', results⟩ :=
                rest reaches (.script _ rule' (next _)) between.imported active'
              exact ⟨_, _, .insertion loaded' pass' rest', results⟩

/-- The outcomes of tasks that are mirrored are mirrored, unless the runs do not keep in step and
the first one ends at a limit. -/
theorem mirrored_perform
    (allows : interpreter.Allows variation)
    {task task' : Task}
    {progress progress' : Progress}
    (tasks : task.Mirrors variation task')
    (related : progress.Mirrors variation progress')
    (reaches : variation.inStep ∨ ¬Outcome.IsLimit (interpreter.perform task progress)) :
    MirroredResults variation Eq (interpreter.perform task progress)
      (interpreter.perform task' progress') := by
  obtain ⟨_, expands⟩ := interpreter.exists_expands_perform progress.depth task progress
  obtain ⟨_, _, expands', results⟩ :=
    expands.mirrored allows reaches tasks related progress'.depth
  rwa [expands'.perform_eq]

end Interpreter

end WidgetMarkup
