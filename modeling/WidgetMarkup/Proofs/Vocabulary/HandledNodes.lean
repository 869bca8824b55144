import WidgetMarkup.Proofs.Vocabulary.MirroredScripts

namespace WidgetMarkup

open Markup

/-!
# What scripts do with nodes

A script could have any nodes expanded. Those of the language handle no nodes but what is inside of
their calls: they have some or all of it expanded, put it into a template, or make it the body of a
macro.
-/

/-- What scripts may do with nodes. -/
structure NodeUses where
  /-- Whether nodes may be expanded. -/
  expands : List Node → Prop
  /-- Whether nodes may be put into a template. -/
  inserts : List Node → Prop
  /-- Whether a macro may be defined under a name. -/
  defines : String → UserMacro → Prop

namespace Script

variable {uses : NodeUses}

/-- Whether a script handles nodes only as it may. -/
def Handles (uses : NodeUses) : Script → Prop
  | .finish _ _ => True
  | .fail _ => True
  | .charge next => next.Handles uses
  | .expand nodes _ next =>
      uses.expands nodes ∧ ∀ expanded left, (next expanded left).Handles uses
  | .insertTemplate _ _ content _ next =>
      uses.inserts content ∧ ∀ expanded, (next expanded).Handles uses
  | .interpolate _ _ next => ∀ text, (next text).Handles uses
  | .evaluate _ _ next => ∀ value, (next value).Handles uses
  | .invoke _ next => ∀ answer, (next answer).Handles uses
  | .define name interpolates body next =>
      (∃ definition : UserMacro,
        definition.toRule = ⟨interpolates, body⟩ ∧ uses.defines name definition) ∧
        next.Handles uses
  | .addDefault _ _ next => next.Handles uses
  | .record _ _ next => next.Handles uses

theorem handles_repeatFrom
    {nodes : List Node}
    (mayExpand : uses.expands nodes)
    (scope : Scope)
    (bindings : Nat → List (String × String))
    (remaining index : Nat)
    (expanded : List (List Node)) :
    (repeatFrom nodes scope bindings index expanded remaining).Handles uses := by
  induction remaining generalizing index expanded with
  | zero =>
      trivial
  | succ remaining inductionHypothesis =>
      exact ⟨mayExpand, fun _ _ => inductionHypothesis _ _⟩

theorem handles_defineAll
    {definition : UserMacro}
    {next : Script}
    (rest : next.Handles uses)
    {aliases : List String}
    (mayDefine : ∀ name ∈ aliases, uses.defines name definition) :
    (defineAll aliases definition.toRule next).Handles uses := by
  induction aliases with
  | nil =>
      exact rest
  | cons first others inductionHypothesis =>
      rw [List.forall_mem_cons] at mayDefine
      exact ⟨⟨definition, rfl, mayDefine.1⟩, inductionHypothesis mayDefine.2⟩

end Script

variable {uses : NodeUses}

theorem MacroCall.handles_require
    {call : MacroCall}
    {name : String}
    {next : String → Script}
    (rest : ∀ value, (next value).Handles uses) :
    (call.require name next).Handles uses := by
  unfold require
  split
  · exact rest _
  · trivial

/-- A macro of a document has its body expanded with the content of the call in it. -/
theorem UserMacro.handles_script
    (definition : UserMacro)
    (sources : Sources)
    (call : MacroCall)
    (mayExpand :
      uses.expands (Node.replaceMarkers definition.marker call.children definition.body))
    (scope : Scope) :
    (definition.toRule.script sources call scope).Handles uses := by
  have binds (next : Scope → Script) (rest : ∀ scope, (next scope).Handles uses)
      (parameters : List Attribute) (scope : Scope) :
      (bindDefaults parameters scope next).Handles uses := by
    induction parameters generalizing scope with
    | nil =>
        exact rest scope
    | cons parameter others inductionHypothesis =>
        exact fun _ => inductionHypothesis _
  refine binds _ (fun inner => ?_) definition.parameters scope.child
  exact ⟨mayExpand, fun _ _ => trivial⟩

namespace StandardMacro

theorem handles_calculateAll
    (attributes : List Attribute)
    (scope : Scope) :
    (calculateAll attributes scope).Handles uses := by
  induction attributes generalizing scope with
  | nil =>
      trivial
  | cons entry rest inductionHypothesis =>
      exact fun _ => inductionHypothesis _

theorem handles_invokeAll
    (attributes : List Attribute)
    (scope : Scope) :
    (invokeAll attributes scope).Handles uses := by
  induction attributes generalizing scope with
  | nil =>
      trivial
  | cons entry rest inductionHypothesis =>
      intro answer
      cases answer <;> exact inductionHypothesis _

theorem handles_bindFrom
    (source : Scope → String → Option String)
    (path : TagPath)
    (attributes : List Attribute)
    (scope : Scope) :
    (bindFrom source path attributes scope).Handles uses := by
  induction attributes generalizing scope with
  | nil =>
      trivial
  | cons entry rest inductionHypothesis =>
      rw [bindFrom]
      split <;> exact inductionHypothesis _

theorem handles_withMessage
    (call : MacroCall)
    (scope : Scope)
    {next : String → Script}
    (rest : ∀ message, (next message).Handles uses) :
    (withMessage call scope next).Handles uses := by
  unfold withMessage
  split
  · split <;> exact rest _
  · exact rest

theorem handles_addDefaults
    (entry : Attribute)
    (scope : Scope)
    (tags : List String) :
    (tags.foldr (fun tag rest => Script.addDefault tag entry rest)
      (.finish [] scope)).Handles uses := by
  induction tags with
  | nil =>
      trivial
  | cons tag rest inductionHypothesis =>
      exact inductionHypothesis

/-- The macro that a call defines. -/
def definitionOf (call : MacroCall) : UserMacro where
  marker := definedMarker call
  parameters := call.attributes.filter isParameter
  body := call.children

section Rules

variable {sources : Sources} {call : MacroCall} {scope : Scope}

theorem handles_condition
    (parts : ∀ nodes, nodes ⊆ call.children → uses.expands nodes) :
    (condition.script sources call scope).Handles uses := by
  simp only [condition]
  split
  · trivial
  · refine fun value => ⟨parts _ fun node member => ?_, fun _ _ => trivial⟩
    split at member
    · exact mem_of_mem_splitAtElse (.inl member)
    · exact mem_of_mem_splitAtElse (.inr member)

theorem handles_whenBound
    (all : Bool)
    (mayExpand : uses.expands call.children) :
    ((whenBound all).script sources call scope).Handles uses := by
  simp only [whenBound]
  generalize (if all = true then _ else _ : Bool) = holds
  split
  · exact ⟨mayExpand, fun _ _ => trivial⟩
  · trivial

theorem handles_forEach
    (mayExpand : uses.expands call.children) :
    (forEach.script sources call scope).Handles uses := by
  simp only [forEach]
  split
  · trivial
  · split
    · trivial
    · exact Script.handles_repeatFrom mayExpand _ _ _ _ _

theorem handles_forEachNested
    (mayExpand : uses.expands call.children) :
    (forEachNested.script sources call scope).Handles uses := by
  simp only [forEachNested]
  split
  · trivial
  · exact Script.handles_repeatFrom mayExpand _ _ _ _ _

theorem handles_loop
    (mayExpand : uses.expands call.children) :
    (loop.script sources call scope).Handles uses := by
  simp only [loop]
  split
  · trivial
  · split
    · trivial
    · exact Script.handles_repeatFrom mayExpand _ _ _ _ _

theorem handles_define
    (mayDefine :
      ∀ raw, call.attribute? "alias" = some raw →
        ∀ name ∈ sources.items raw, uses.defines name (definitionOf call)) :
    (define.script sources call scope).Handles uses := by
  simp only [define, MacroCall.require]
  split
  · rename_i raw given
    split
    · trivial
    · have ends : (Script.finish [] scope).Handles uses := trivial
      exact Script.handles_defineAll ends (mayDefine raw given)
  · trivial

end Rules

/-- Every macro of the language handles some of what is inside of its call, if anything; only
imports put it into a template, and only definitions define the macro that they are for. -/
theorem handles_of_mem_all
    {sources : Sources}
    {call : MacroCall}
    {scope : Scope}
    (parts : ∀ nodes, nodes ⊆ call.children → uses.expands nodes) :
    ∀ entry ∈ all,
      (entry.1 = ["import", "include"] → uses.inserts call.children) →
        (entry = (["macro"], define) →
          ∀ raw, call.attribute? "alias" = some raw →
            ∀ name ∈ sources.items raw, uses.defines name (definitionOf call)) →
          (entry.2.script sources call scope).Handles uses := by
  have whole := parts call.children (List.Subset.refl _)
  simp only [all, List.forall_mem_cons, List.mem_nil_iff, false_implies, implies_true, and_true]
  refine ⟨fun _ _ => handles_condition parts, fun _ _ => handles_forEach whole,
    fun _ _ => handles_forEachNested whole, fun _ _ => handles_loop whole, fun _ _ => trivial,
    fun _ _ => handles_calculateAll _ scope, fun _ _ => handles_invokeAll _ scope,
    fun _ _ => handles_bindFrom _ _ _ scope, fun _ _ => handles_bindFrom _ _ _ scope, ?template,
    fun _ _ => trivial, fun _ _ => ⟨whole, fun _ _ => trivial⟩, ?info, ?debug, ?error, ?throw,
    ?style, fun _ mayDefine => handles_define (mayDefine trivial),
    fun _ _ => handles_whenBound true whole, fun _ _ => handles_whenBound false whole⟩
  case template =>
    exact fun mayInsert _ =>
      MacroCall.handles_require fun _ => ⟨mayInsert trivial, fun _ => trivial⟩
  case style =>
    exact fun _ _ => MacroCall.handles_require fun _ => MacroCall.handles_require fun _ =>
      MacroCall.handles_require fun _ => handles_addDefaults _ scope _
  all_goals exact fun _ _ => handles_withMessage call scope fun _ => trivial

end StandardMacro

end WidgetMarkup
