import WidgetMarkup.Proofs.Expansion.Restoring
import WidgetMarkup.Vocabulary.StandardMacros

namespace WidgetMarkup

open Markup

/-!
# How the macros of the language act

The macros of the language and those of documents put their scripts together in few ways: they
expand nodes once and end with what these become, repeat nodes, end with nothing, or do something
without any nodes before one of these. What has to be shown of all macros is shown of these ways.
-/

/-- The scripts that are put together in the ways of the language. -/
inductive Script.IsStandard : Script → Prop where
  | fail {problem} (noHalt : problem.isHalt = false) : IsStandard (.fail problem)
  /-- Nothing is left of the call. -/
  | nothing (scope) : IsStandard (.finish [] scope)
  /-- Nodes are expanded and put in place of the call. -/
  | pass (nodes scope) (leave : Scope → Scope) :
      IsStandard (.expand nodes scope fun expanded left => .finish expanded (leave left))
  /-- A template is expanded and put in place of the call. -/
  | insertion (template marker content inside left) :
      IsStandard
        (.insertTemplate template marker content inside fun expanded => .finish expanded left)
  | repetition (nodes scope count bindings) :
      IsStandard (.repeatTimes nodes scope count bindings)
  | interpolate {raw scope next} (rest : ∀ text, IsStandard (next text)) :
      IsStandard (.interpolate raw scope next)
  | evaluate {source scope next} (rest : ∀ value, IsStandard (next value)) :
      IsStandard (.evaluate source scope next)
  | invoke {reference next} (rest : ∀ answer, IsStandard (next answer)) :
      IsStandard (.invoke reference next)
  | define {interpolates body next}
      (name : String)
      (definition : UserMacro)
      (same : definition.toRule = ⟨interpolates, body⟩)
      (rest : IsStandard next) :
      IsStandard (.define name interpolates body next)
  | addDefault {next} (tag entry) (rest : IsStandard next) : IsStandard (.addDefault tag entry next)
  | record {next} (level text) (rest : IsStandard next) : IsStandard (.record level text next)

/-- The scripts that do nothing but repeat nodes, unless they fail. -/
inductive Script.IsRepetition : Script → Prop where
  | fail {problem} (noHalt : problem.isHalt = false) : IsRepetition (.fail problem)
  | repetition (nodes scope count bindings) :
      IsRepetition (.repeatTimes nodes scope count bindings)

theorem Script.IsRepetition.isStandard
    {script : Script}
    (isRepetition : script.IsRepetition) :
    script.IsStandard := by
  cases isRepetition with
  | fail noHalt =>
      exact .fail noHalt
  | repetition nodes scope count bindings =>
      exact .repetition nodes scope count bindings

/-- Whether a macro acts in the ways of the language, however it is called. -/
def MacroRule.IsStandard (rule : MacroRule) : Prop :=
  ∀ sources call scope, (rule.script sources call scope).IsStandard

theorem MacroCall.isStandard_require
    {call : MacroCall}
    {name : String}
    {next : String → Script}
    (rest : ∀ value, (next value).IsStandard) :
    (call.require name next).IsStandard := by
  unfold require
  split
  · exact rest _
  · exact .fail rfl

theorem Script.isStandard_defineAll
    {next : Script}
    (definition : UserMacro)
    (rest : next.IsStandard)
    (aliases : List String) :
    (defineAll aliases definition.toRule next).IsStandard := by
  induction aliases with
  | nil =>
      exact rest
  | cons first others inductionHypothesis =>
      exact .define first definition rfl inductionHypothesis

namespace StandardMacro

theorem isStandard_calculateAll
    (attributes : List Attribute)
    (scope : Scope) :
    (calculateAll attributes scope).IsStandard := by
  induction attributes generalizing scope with
  | nil =>
      exact .nothing scope
  | cons entry rest inductionHypothesis =>
      exact .evaluate fun value => inductionHypothesis _

theorem isStandard_invokeAll
    (attributes : List Attribute)
    (scope : Scope) :
    (invokeAll attributes scope).IsStandard := by
  induction attributes generalizing scope with
  | nil =>
      exact .nothing scope
  | cons entry rest inductionHypothesis =>
      refine .invoke fun answer => ?_
      cases answer <;> exact inductionHypothesis _

theorem isStandard_bindFrom
    (source : Scope → String → Option String)
    (path : TagPath)
    (attributes : List Attribute)
    (scope : Scope) :
    (bindFrom source path attributes scope).IsStandard := by
  induction attributes generalizing scope with
  | nil =>
      exact .nothing scope
  | cons entry rest inductionHypothesis =>
      rw [bindFrom]
      split
      · exact inductionHypothesis _
      · exact .record _ _ (inductionHypothesis _)

theorem isStandard_addDefaults
    (entry : Attribute)
    (scope : Scope)
    (tags : List String) :
    (tags.foldr (fun tag rest => Script.addDefault tag entry rest)
      (.finish [] scope)).IsStandard := by
  induction tags with
  | nil =>
      exact .nothing scope
  | cons tag rest inductionHypothesis =>
      exact .addDefault tag entry inductionHypothesis

theorem isStandard_withMessage
    {next : String → Script}
    (rest : ∀ message, (next message).IsStandard)
    (call : MacroCall)
    (scope : Scope) :
    (withMessage call scope next).IsStandard := by
  unfold withMessage
  split
  · split <;> exact rest _
  · exact .interpolate rest

theorem isStandard_condition :
    condition.IsStandard := by
  intro sources call scope
  simp only [condition]
  split
  · exact .fail rfl
  · exact .evaluate fun value => .pass _ scope id

theorem isStandard_whenBound
    (all : Bool) :
    (whenBound all).IsStandard := by
  intro sources call scope
  simp only [whenBound]
  generalize (if all = true then _ else _ : Bool) = holds
  split
  · exact .pass call.children scope id
  · exact .nothing scope

theorem isRepetition_forEach
    (sources : Sources)
    (call : MacroCall)
    (scope : Scope) :
    (forEach.script sources call scope).IsRepetition := by
  simp only [forEach]
  split
  · exact .fail rfl
  · split
    · exact .fail rfl
    · exact .repetition call.children scope _ _

theorem isRepetition_forEachNested
    (sources : Sources)
    (call : MacroCall)
    (scope : Scope) :
    (forEachNested.script sources call scope).IsRepetition := by
  simp only [forEachNested]
  split
  · exact .fail rfl
  · exact .repetition call.children scope _ _

theorem isRepetition_loop
    (sources : Sources)
    (call : MacroCall)
    (scope : Scope) :
    (loop.script sources call scope).IsRepetition := by
  simp only [loop]
  split
  · exact .fail rfl
  · split
    · exact .fail rfl
    · exact .repetition call.children scope _ _

theorem isStandard_template :
    template.IsStandard := by
  intro sources call scope
  exact MacroCall.isStandard_require fun path => .insertion path _ call.children scope scope

theorem isStandard_log
    (level : LogLevel) :
    (log level).IsStandard := by
  intro sources call scope
  exact isStandard_withMessage (fun message => .record level _ (.nothing scope)) call scope

theorem isStandard_throw :
    throw.IsStandard := by
  intro sources call scope
  exact isStandard_withMessage (fun message => .fail rfl) call scope

theorem isStandard_style :
    style.IsStandard := by
  intro sources call scope
  refine MacroCall.isStandard_require fun tags => ?_
  refine MacroCall.isStandard_require fun name => ?_
  refine MacroCall.isStandard_require fun value => ?_
  exact isStandard_addDefaults ⟨name, value⟩ scope (sources.items tags)

theorem isStandard_define :
    define.IsStandard := by
  intro sources call scope
  refine MacroCall.isStandard_require fun raw => ?_
  split
  · exact .fail rfl
  · exact Script.isStandard_defineAll _ (.nothing scope) _

/-- Every macro of the language acts in its ways. -/
theorem isStandard_of_mem_all
    {names : List String}
    {rule : MacroRule}
    (listed : (names, rule) ∈ all) :
    rule.IsStandard := by
  simp only [all, List.mem_cons, Prod.mk.injEq, List.not_mem_nil, or_false] at listed
  rcases listed with ⟨_, rfl⟩ | ⟨_, rfl⟩ | ⟨_, rfl⟩ | ⟨_, rfl⟩ | ⟨_, rfl⟩ | ⟨_, rfl⟩ | ⟨_, rfl⟩ |
    ⟨_, rfl⟩ | ⟨_, rfl⟩ | ⟨_, rfl⟩ | ⟨_, rfl⟩ | ⟨_, rfl⟩ | ⟨_, rfl⟩ | ⟨_, rfl⟩ | ⟨_, rfl⟩ |
    ⟨_, rfl⟩ | ⟨_, rfl⟩ | ⟨_, rfl⟩ | ⟨_, rfl⟩ | ⟨_, rfl⟩
  · exact isStandard_condition
  · exact fun _ _ _ => (isRepetition_forEach _ _ _).isStandard
  · exact fun _ _ _ => (isRepetition_forEachNested _ _ _).isStandard
  · exact fun _ _ _ => (isRepetition_loop _ _ _).isStandard
  · exact fun _ _ _ => .nothing _
  · exact fun _ call scope => isStandard_calculateAll call.attributes scope
  · exact fun _ call scope => isStandard_invokeAll call.attributes scope
  · exact fun _ call scope => isStandard_bindFrom _ _ call.attributes scope
  · exact fun _ call scope => isStandard_bindFrom _ _ call.attributes scope
  · exact isStandard_template
  · exact fun _ _ scope => .nothing scope
  · exact fun _ call scope => .pass call.children scope id
  · exact isStandard_log .info
  · exact isStandard_log .debug
  · exact isStandard_log .error
  · exact isStandard_throw
  · exact isStandard_style
  · exact isStandard_define
  · exact isStandard_whenBound true
  · exact isStandard_whenBound false

end StandardMacro

namespace UserMacro

theorem isStandard_bindDefaults
    {next : Scope → Script}
    (rest : ∀ scope, (next scope).IsStandard)
    (parameters : List Attribute)
    (scope : Scope) :
    (bindDefaults parameters scope next).IsStandard := by
  induction parameters generalizing scope with
  | nil =>
      exact rest scope
  | cons parameter others inductionHypothesis =>
      exact .interpolate fun value => inductionHypothesis _

/-- The macros of documents act in the ways of the language. -/
theorem isStandard_toRule
    (definition : UserMacro) :
    definition.toRule.IsStandard := by
  intro sources call scope
  refine isStandard_bindDefaults (fun inner => ?_) definition.parameters scope.child
  exact .pass _ _ fun _ => scope

end UserMacro

end WidgetMarkup
