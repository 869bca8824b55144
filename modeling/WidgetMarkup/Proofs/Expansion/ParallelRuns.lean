import WidgetMarkup.Proofs.Expansion.ParallelFilling
import WidgetMarkup.Proofs.Expansion.Recursion
import WidgetMarkup.Proofs.Vocabulary.NamelessRules

namespace WidgetMarkup

open Markup
open Expansion (AreParallel)

/-!
# Expansion does not see the spelling of names

The expansions of two forests that differ in the spelling of names go on in parallel: tags, macros,
styles and markers are found under all spellings, in the forests and in the templates that are
inserted. What they become differs in the spelling of names only.
-/

/-- Whether two sources are forests that differ in the spelling of names, or neither is one. -/
inductive IsSourceRespelling
    (isTag : String → Bool)
    (marker : Char)
    (source source' : String) :
    Prop where
  | read
      {nodes nodes' : List Node}
      (isForest : forestOfSource marker source = .ok nodes)
      (isForest' : forestOfSource marker source' = .ok nodes')
      (respelled : Node.AreRespellings isTag nodes nodes')
  | faulty
      {fault fault' : Fault}
      (isFaulty : forestOfSource marker source = .error fault)
      (isFaulty' : forestOfSource marker source' = .error fault')

/-- Whether a name means a tag. -/
def Vocabulary.isTag (vocabulary : Vocabulary) (name : String) : Bool :=
  (vocabulary.tag? name).isSome

/-- Whether macros are found under all spellings of their names and do not see that of others. -/
def Vocabulary.HasParallelMacros (vocabulary : Vocabulary) : Prop :=
  ∀ name name',
    Text.foldCase name = Text.foldCase name' →
      Option.Rel (MacroRule.Parallel vocabulary.isTag) (vocabulary.macroRule? name)
        (vocabulary.macroRule? name')

theorem StyleSheet.complete_respelled
    (sheet : StyleSheet)
    {name name' : String}
    (same : Text.foldCase name = Text.foldCase name')
    {free : Bool}
    {entries entries' : List Attribute}
    (respelled : Attribute.AreRespellings free entries entries') :
    Attribute.AreRespellings free (sheet.complete name entries)
      (sheet.complete name' entries') := by
  unfold complete defaultsOf
  rw [NameTable.find?_congr same]
  induction (sheet.defaults.find? name').getD [] generalizing entries entries' with
  | nil =>
      exact respelled
  | cons entry rest inductionHypothesis =>
      rw [List.foldl_cons, List.foldl_cons, respelled.isPresent_eq]
      split
      · exact inductionHypothesis respelled
      · exact inductionHypothesis (respelled.append (.refl free [entry]))

/-- Whether two results of an expansion are nodes that differ in the spelling of names, and the same
scope. -/
structure AreExpanded (isTag : String → Bool) (result result' : List Node × Scope) : Prop where
  nodes : Node.AreRespellings isTag result.1 result'.1
  scope : result.2 = result'.2

/-- Whether two ways of expanding nodes go on in parallel for nodes that differ in the spelling of
names. -/
def Expander.Parallel (isTag : String → Bool) (expand expand' : Expander) : Prop :=
  ∀ nodes nodes' scope,
    Node.AreRespellings isTag nodes nodes' →
      AreParallel isTag (AreExpanded isTag) (expand nodes scope) (expand' nodes' scope)

/-- Whether two ways of carrying out macro calls go on in parallel for calls that differ in the
spelling of names; that of their attributes is not free. -/
def ParallelCalls
    (isTag : String → Bool)
    (call call' : Node → Scope → Expansion (List Node × Scope)) :
    Prop :=
  ∀ node node' scope,
    Node.IsRespelling isTag node node' →
      node.attributes = node'.attributes →
        AreParallel isTag (AreExpanded isTag) (call node scope) (call' node' scope)

namespace Interpreter

variable {isTag : String → Bool} {interpreter : Interpreter} {templates : TextSource}

@[simp]
theorem templates_withTemplates :
    (interpreter.withTemplates templates).templates = templates :=
  rfl

@[simp]
theorem settings_withTemplates :
    (interpreter.withTemplates templates).settings = interpreter.settings :=
  rfl

/-- Whether templates are those of the interpreter but for the spelling of names. -/
def HasRespelled (interpreter : Interpreter) (templates : TextSource) : Prop :=
  ∀ template,
    Option.Rel (IsSourceRespelling interpreter.vocabulary.isTag interpreter.settings.marker)
      (interpreter.templates template) (templates template)

theorem parallel_findMacro?
    (templates : TextSource)
    (macros : interpreter.vocabulary.HasParallelMacros)
    {progress progress' : Progress}
    (related : progress.Parallel interpreter.vocabulary.isTag progress')
    {name name' : String}
    (same : Text.foldCase name = Text.foldCase name') :
    Option.Rel (MacroRule.Parallel interpreter.vocabulary.isTag)
      (interpreter.findMacro? progress name)
      ((interpreter.withTemplates templates).findMacro? progress' name') := by
  unfold findMacro?
  have found := related.macros name name' same
  generalize progress.macros.find? name = own, progress'.macros.find? name' = own' at found
  cases found with
  | none =>
      exact macros name name' same
  | some rules =>
      exact .some rules

theorem isMacroCall_congr
    (macros : interpreter.vocabulary.HasParallelMacros)
    {progress progress' : Progress}
    (related : progress.Parallel interpreter.vocabulary.isTag progress')
    {node node' : Node}
    (respelled : node.IsRespelling interpreter.vocabulary.isTag node') :
    interpreter.isMacroCall progress node =
      (interpreter.withTemplates templates).isMacroCall progress' node' := by
  have found :
      (interpreter.findMacro? progress node.name).isSome =
        ((interpreter.withTemplates templates).findMacro? progress' node'.name).isSome := by
    have rules := parallel_findMacro? templates macros related respelled.foldCase
    generalize interpreter.findMacro? progress node.name = own,
      (interpreter.withTemplates templates).findMacro? progress' node'.name = own' at rules
    cases rules <;> rfl
  unfold isMacroCall
  rw [respelled.isMacro, found, Vocabulary.tag?_congr respelled.foldCase]
  rfl

/-- The attributes of macro calls are not free in their spelling. -/
theorem fixed_of_isMacroCall
    {progress : Progress}
    {node : Node}
    (isCall : interpreter.isMacroCall progress node = true) :
    (!node.isMacro && interpreter.vocabulary.isTag node.name) = false := by
  simp only [isMacroCall, Bool.or_eq_true, Bool.and_eq_true] at isCall
  rw [Bool.and_eq_false_imp, Vocabulary.isTag]
  intro unmarked
  rcases isCall with marked | ⟨noTag, _⟩
  · simp [marked] at unmarked
  · simpa using noTag

theorem parallel_loadTemplate
    (respelled : interpreter.HasRespelled templates)
    (template : String) :
    AreParallel interpreter.vocabulary.isTag (Node.AreRespellings interpreter.vocabulary.isTag)
      (interpreter.loadTemplate template)
      ((interpreter.withTemplates templates).loadTemplate template) := by
  intro before before' related
  have sources := respelled template
  rw [loadTemplate_apply, loadTemplate_apply, templates_withTemplates, settings_withTemplates,
    related.imports]
  split
  · exact .error ⟨rfl, related.path⟩ related
  · generalize interpreter.templates template = found, templates template = found' at sources
    cases sources with
    | none =>
        exact .error ⟨rfl, related.path⟩ related
    | some read =>
        cases read with
        | read isForest isForest' nodes =>
            simp only [isForest, isForest']
            exact .ok nodes { related with imports := rfl, journal := related.journal }
        | faulty isFaulty isFaulty' =>
            simp only [isFaulty, isFaulty']
            exact .error ⟨rfl, related.path⟩ related

theorem parallel_insertTemplate
    (respelled : interpreter.HasRespelled templates)
    {expand expand' : Expander}
    (expanders : Expander.Parallel interpreter.vocabulary.isTag expand expand')
    (template marker : String)
    {content content' : List Node}
    (contents : Node.AreRespellings interpreter.vocabulary.isTag content content')
    (scope : Scope) :
    AreParallel interpreter.vocabulary.isTag (Node.AreRespellings interpreter.vocabulary.isTag)
      (interpreter.insertTemplate expand template marker content scope)
      ((interpreter.withTemplates templates).insertTemplate expand' template marker content'
        scope) := by
  rw [insertTemplate_eq, insertTemplate_eq]
  refine .bind (parallel_loadTemplate respelled template) fun nodes nodes' loaded => ?_
  have inside := expanders (Node.replaceMarkers marker content nodes) _ scope.child
    (contents.replaceMarkers loaded)
  exact (inside.importing template).bind fun _ _ expanded => .pure expanded.nodes

/-- Scripts that take the same steps are carried out in parallel. -/
theorem parallel_runScript
    (respelled : interpreter.HasRespelled templates)
    {expand expand' : Expander}
    (expanders : Expander.Parallel interpreter.vocabulary.isTag expand expand')
    {script script' : Script}
    (scripts : Script.Parallel interpreter.vocabulary.isTag script script') :
    AreParallel interpreter.vocabulary.isTag (AreExpanded interpreter.vocabulary.isTag)
      (interpreter.runScript expand script)
      ((interpreter.withTemplates templates).runScript expand' script') := by
  induction scripts with
  | finish nodes scope =>
      exact .pure ⟨nodes, rfl⟩
  | fail sameKind =>
      exact .fail sameKind
  | charge _ inductionHypothesis =>
      exact .bind_eq (AreParallel.charge _) fun _ => inductionHypothesis
  | expand nodes scope _ inductionHypothesis =>
      refine .bind (expanders _ _ scope nodes) fun ⟨expanded, left⟩ ⟨expanded', _⟩ same => ?_
      obtain ⟨nodes, rfl⟩ := same
      exact inductionHypothesis expanded expanded' left nodes
  | insertTemplate template marker content scope _ inductionHypothesis =>
      exact .bind (parallel_insertTemplate respelled expanders template marker content scope)
        inductionHypothesis
  | interpolate raw scope _ inductionHypothesis =>
      exact .bind_eq (parallel_interpolate scope raw) inductionHypothesis
  | evaluate source scope _ inductionHypothesis =>
      exact .bind_eq (parallel_evaluate scope source) inductionHypothesis
  | invoke reference _ inductionHypothesis =>
      exact .bind_eq (AreParallel.logged (interpreter.actions.isBlind_invoke reference) id)
        inductionHypothesis
  | define name interpolates bodies _ _ inductionHypothesis =>
      refine .bind_eq (AreParallel.record _ _ _) fun _ => ?_
      exact .bind_eq (AreParallel.defining name ⟨rfl, bodies⟩) fun _ => inductionHypothesis
  | addDefault tag entry _ inductionHypothesis =>
      exact .bind_eq (AreParallel.styling tag entry) fun _ => inductionHypothesis
  | record level text text' _ inductionHypothesis =>
      exact .bind_eq (AreParallel.record level text text') fun _ => inductionHypothesis

theorem parallel_prepareCall
    {rule rule' : MacroRule}
    (rules : MacroRule.Parallel isTag rule rule')
    {node node' : Node}
    (isRespelling : Node.IsRespelling isTag node node')
    (sameAttributes : node.attributes = node'.attributes)
    (scope : Scope)
    (path path' : TagPath) :
    AreParallel isTag (MacroCall.IsRespelling isTag)
      (interpreter.prepareCall rule node scope path)
      ((interpreter.withTemplates templates).prepareCall rule' node' scope path') := by
  unfold prepareCall
  rw [rules.interpolates, sameAttributes]
  have called (attributes : List Attribute) :
      MacroCall.IsRespelling isTag ⟨node.name, attributes, node.children, node.text, path⟩
        ⟨node'.name, attributes, node'.children, node'.text, path'⟩ :=
    ⟨rfl, isRespelling.children, isRespelling.text⟩
  -- Filled in, attributes whose spelling is not free are the same again.
  have fixed : Attribute.AreRespellings false node'.attributes node'.attributes := .refl _ _
  split
  · refine (parallel_interpolateAttributes scope fixed).bind fun filled filled' same => ?_
    obtain rfl := same.eq
    exact .bind_eq (AreParallel.record _ _ _) fun _ => .pure (called filled)
  · refine .bind_eq (.pure rfl) fun attributes => ?_
    exact .bind_eq (AreParallel.record _ _ _) fun _ => .pure (called attributes)

/-- A macro call is carried out in parallel for all spellings of its name. -/
theorem parallel_callMacro
    (macros : interpreter.vocabulary.HasParallelMacros)
    (respelled : interpreter.HasRespelled templates)
    {expand expand' : Option Expander}
    (expanders : Option.Rel (Expander.Parallel interpreter.vocabulary.isTag) expand expand') :
    ParallelCalls interpreter.vocabulary.isTag (interpreter.callMacro expand)
      ((interpreter.withTemplates templates).callMacro expand') := by
  intro node node' scope isRespelling sameAttributes
  rw [callMacro_eq, callMacro_eq]
  refine .get_bind fun progress progress' related => AreParallel.within ?_ ?_
  · exact TagPath.depth_child_congr related.path _ _ _ _
  · have rules := parallel_findMacro? templates macros related isRespelling.foldCase
    generalize interpreter.findMacro? progress node.name = own,
      (interpreter.withTemplates templates).findMacro? progress' node'.name = own' at rules
    cases rules with
    | none =>
        exact .fail rfl
    | some rules =>
        cases expanders with
        | none =>
            exact .fail rfl
        | some expanders =>
            refine .bind (parallel_prepareCall rules isRespelling sameAttributes scope _ _) ?_
            intro call call' same
            have scripts := rules.script interpreter.sources call call' scope same
            exact (parallel_runScript respelled expanders scripts).calling

theorem parallel_prepareTag
    {node node' : Node}
    (isRespelling : Node.IsRespelling isTag node node')
    (scope : Scope) :
    AreParallel isTag
      (fun filled filled' =>
        Attribute.AreRespellings (!node.isMacro && isTag node.name) filled.1 filled'.1 ∧
          filled.2 = filled'.2)
      (interpreter.prepareTag node scope)
      ((interpreter.withTemplates templates).prepareTag node' scope) := by
  have attributes := isRespelling.attributes
  refine .bind (parallel_interpolateAttributes scope attributes) fun filled filled' same => ?_
  refine .get_bind fun progress progress' related => ?_
  have complete := progress'.styles.complete_respelled isRespelling.foldCase same
  rw [related.styles, isRespelling.hasText, isRespelling.text]
  split
  · exact (parallel_interpolate scope _).bind_eq fun text => .pure ⟨complete, rfl⟩
  · exact .pure ⟨complete, rfl⟩

mutual

/-- Forests that differ in the spelling of names are expanded in parallel if macro calls are. -/
theorem parallel_expandForest
    (macros : interpreter.vocabulary.HasParallelMacros)
    {call call' : Node → Scope → Expansion (List Node × Scope)}
    (calls : ParallelCalls interpreter.vocabulary.isTag call call') :
    ∀ {nodes nodes' : List Node},
      Node.AreRespellings interpreter.vocabulary.isTag nodes nodes' →
        ∀ scope,
          AreParallel interpreter.vocabulary.isTag (AreExpanded interpreter.vocabulary.isTag)
            (interpreter.expandForest call nodes scope)
            ((interpreter.withTemplates templates).expandForest call' nodes' scope)
  | _, _, .nil, scope => by
      rw [expandForest, expandForest]
      exact .pure ⟨.nil, rfl⟩
  | _, _, .cons first others, scope => by
      rw [expandForest, expandForest]
      refine .bind_eq (AreParallel.charge _) fun _ => .get_bind fun progress progress' related => ?_
      -- Both nodes are macro calls, whose attributes are the same, or both are tags.
      rw [← isMacroCall_congr macros related first]
      split
      · rename_i isCall
        have sameAttributes := first.attributes_eq (fixed_of_isMacroCall isCall)
        refine .bind (calls _ _ scope first sameAttributes) ?_
        rintro ⟨expanded, left⟩ ⟨expanded', _⟩ ⟨nodes, rfl⟩
        refine .bind (parallel_expandForest macros calls others left) fun _ _ same => ?_
        exact .pure ⟨nodes.append same.nodes, same.scope⟩
      · rename_i noCall
        have unmarked := isMacro_of_isMacroCall (Bool.eq_false_iff.2 noCall)
        refine .bind (parallel_expandTag macros calls first unmarked scope) fun _ _ tag => ?_
        refine .bind (parallel_expandForest macros calls others scope) fun _ _ same => ?_
        exact .pure ⟨.cons tag same.nodes, same.scope⟩

theorem parallel_expandTag
    (macros : interpreter.vocabulary.HasParallelMacros)
    {call call' : Node → Scope → Expansion (List Node × Scope)}
    (calls : ParallelCalls interpreter.vocabulary.isTag call call') :
    ∀ {node node' : Node},
      Node.IsRespelling interpreter.vocabulary.isTag node node' →
        node.isMacro = false →
          ∀ scope,
            AreParallel interpreter.vocabulary.isTag
              (Node.IsRespelling interpreter.vocabulary.isTag)
              (interpreter.expandTag call node scope)
              ((interpreter.withTemplates templates).expandTag call' node' scope)
  | _, _, .node named attributes children, unmarked, scope => by
      rw [expandTag_eq, expandTag_eq]
      refine .get_bind fun progress progress' related => AreParallel.within ?_ ?_
      · exact TagPath.depth_child_congr related.path _ _ _ _
      · refine .bind (parallel_prepareTag (.node named attributes children) scope) ?_
        rintro ⟨filled, text⟩ ⟨filled', _⟩ ⟨same, rfl⟩
        refine .bind (parallel_expandForest macros calls children scope.child) fun _ _ inside => ?_
        exact .pure (.node named (unmarked ▸ same) inside.nodes)

end

theorem parallel_expandOnLevel
    (macros : interpreter.vocabulary.HasParallelMacros)
    (respelled : interpreter.HasRespelled templates)
    (levels : Nat) :
    Expander.Parallel interpreter.vocabulary.isTag (interpreter.expandOnLevel levels)
      ((interpreter.withTemplates templates).expandOnLevel levels) := by
  induction levels with
  | zero =>
      intro nodes nodes' scope forests
      exact parallel_expandForest macros (parallel_callMacro macros respelled .none) forests scope
  | succ levels inductionHypothesis =>
      intro nodes nodes' scope forests
      exact parallel_expandForest macros
        (parallel_callMacro macros respelled (.some inductionHypothesis)) forests scope

/-- Forests that differ in the spelling of names are expanded in parallel. -/
theorem parallel_expandNodes
    (macros : interpreter.vocabulary.HasParallelMacros)
    (respelled : interpreter.HasRespelled templates) :
    Expander.Parallel interpreter.vocabulary.isTag interpreter.expandNodes
      (interpreter.withTemplates templates).expandNodes := by
  intro nodes nodes' scope forests
  refine .get_bind fun progress progress' related => ?_
  rw [related.depth]
  exact parallel_expandOnLevel macros respelled _ nodes nodes' scope forests

theorem parallel_expandDocument
    (macros : interpreter.vocabulary.HasParallelMacros)
    (respelled : interpreter.HasRespelled templates)
    {nodes nodes' : List Node}
    (forests : Node.AreRespellings interpreter.vocabulary.isTag nodes nodes') :
    AreParallel interpreter.vocabulary.isTag (AreExpanded interpreter.vocabulary.isTag)
      (interpreter.expandDocument nodes)
      ((interpreter.withTemplates templates).expandDocument nodes') := by
  refine .bind (parallel_expandNodes macros respelled nodes nodes' .empty forests) ?_
  exact fun _ _ expanded => .bind_eq (AreParallel.record _ _ _) fun _ => .pure expanded

theorem parallel_beginning
    (interpreter : Interpreter)
    (templates : TextSource)
    (imports : List String) :
    Progress.Parallel isTag (interpreter.beginning imports)
      ((interpreter.withTemplates templates).beginning imports) where
  macros _ _ _ := .none
  styles := rfl
  depth := rfl
  charged := rfl
  imports := rfl
  path := rfl
  journal := rfl

/-- The expansions of documents that differ in the spelling of names end in the same way. -/
theorem parallel_runExpansion
    (macros : interpreter.vocabulary.HasParallelMacros)
    (respelled : interpreter.HasRespelled templates)
    (imports : List String)
    {nodes nodes' : List Node}
    (forests : Node.AreRespellings interpreter.vocabulary.isTag nodes nodes') :
    Run.Parallel (AreExpanded interpreter.vocabulary.isTag)
      (interpreter.runExpansion imports nodes)
      ((interpreter.withTemplates templates).runExpansion imports nodes') := by
  have ends := parallel_expandDocument macros respelled forests _ _
    (interpreter.parallel_beginning templates imports)
  unfold runExpansion
  generalize interpreter.expandDocument nodes (interpreter.beginning imports) = result,
    (interpreter.withTemplates templates).expandDocument nodes'
      ((interpreter.withTemplates templates).beginning imports) = result' at ends
  cases ends with
  | ok expanded related =>
      exact .ok expanded related.journal
  | error sameKind related =>
      exact .error sameKind related.journal

end Interpreter

end WidgetMarkup
