import WidgetMarkup.Proofs.Vocabulary.StandardDeclarations

namespace WidgetMarkup

open Markup

/-!
# Macros look names up and nothing else

Two scopes resemble each other if every name is bound to the same in both, however many scopes there
are around and however often a name has been bound. No macro can tell them apart: its script takes
the same steps in both, in scopes that resemble each other again.
-/

/-- Whether every name is bound to the same in two scopes, or in neither. -/
def Scope.Resembles (scope scope' : Scope) : Prop :=
  ∀ name, scope.get? name = scope'.get? name

namespace Scope.Resembles

variable {scope scope' : Scope}

theorem refl
    (scope : Scope) :
    scope.Resembles scope :=
  fun _ => rfl

theorem child
    (resembles : scope.Resembles scope') :
    scope.child.Resembles scope'.child := by
  intro name
  rw [get?_child, get?_child, resembles]

theorem bind
    (resembles : scope.Resembles scope')
    (name value : String) :
    (scope.bind name value).Resembles (scope'.bind name value) := by
  intro other
  rw [get?_bind, get?_bind, resembles]

theorem bindAll
    (resembles : scope.Resembles scope')
    (bindings : List (String × String)) :
    (scope.bindAll bindings).Resembles (scope'.bindAll bindings) := by
  induction bindings generalizing scope scope' with
  | nil =>
      exact resembles
  | cons binding rest inductionHypothesis =>
      exact inductionHypothesis (resembles.bind binding.1 binding.2)

theorem lookup?
    (resembles : scope.Resembles scope')
    (sources : Sources)
    (name : String) :
    sources.lookup? scope name = sources.lookup? scope' name := by
  unfold Sources.lookup?
  rw [resembles]

end Scope.Resembles

/-- Whether two scripts take the same steps, on the same nodes, in scopes that resemble each
other. -/
inductive Script.Resembles : Script → Script → Prop where
  | finish
      {scope scope' : Scope}
      (nodes : List Node)
      (resembles : scope.Resembles scope') :
      Resembles (.finish nodes scope) (.finish nodes scope')
  | fail
      (problem : Problem) :
      Resembles (.fail problem) (.fail problem)
  | charge
      {next next' : Script}
      (rest : Resembles next next') :
      Resembles (.charge next) (.charge next')
  | expand
      {scope scope' : Scope}
      {next next' : List Node → Scope → Script}
      (nodes : List Node)
      (resembles : scope.Resembles scope')
      (rest :
        ∀ expanded left left', left.Resembles left' →
          Resembles (next expanded left) (next' expanded left')) :
      Resembles (.expand nodes scope next) (.expand nodes scope' next')
  | insertTemplate
      {scope scope' : Scope}
      {next next' : List Node → Script}
      (template marker : String)
      (content : List Node)
      (resembles : scope.Resembles scope')
      (rest : ∀ expanded, Resembles (next expanded) (next' expanded)) :
      Resembles (.insertTemplate template marker content scope next)
        (.insertTemplate template marker content scope' next')
  | interpolate
      {scope scope' : Scope}
      {next next' : String → Script}
      (raw : String)
      (resembles : scope.Resembles scope')
      (rest : ∀ text, Resembles (next text) (next' text)) :
      Resembles (.interpolate raw scope next) (.interpolate raw scope' next')
  | evaluate
      {scope scope' : Scope}
      {next next' : Expression.Value → Script}
      (source : String)
      (resembles : scope.Resembles scope')
      (rest : ∀ value, Resembles (next value) (next' value)) :
      Resembles (.evaluate source scope next) (.evaluate source scope' next')
  | invoke
      {next next' : Option String → Script}
      (reference : String)
      (rest : ∀ answer, Resembles (next answer) (next' answer)) :
      Resembles (.invoke reference next) (.invoke reference next')
  | define
      {next next' : Script}
      (name : String)
      (interpolates : Bool)
      (body : Sources → MacroCall → Scope → Script)
      (rest : Resembles next next') :
      Resembles (.define name interpolates body next) (.define name interpolates body next')
  | addDefault
      {next next' : Script}
      (tag : String)
      (entry : Attribute)
      (rest : Resembles next next') :
      Resembles (.addDefault tag entry next) (.addDefault tag entry next')
  | record
      {next next' : Script}
      (level : LogLevel)
      (text : String)
      (rest : Resembles next next') :
      Resembles (.record level text next) (.record level text next')

/-- Whether a macro cannot tell scopes apart that resemble each other. -/
def MacroRule.OnlyLooksUp (rule : MacroRule) : Prop :=
  ∀ sources call scope scope', Scope.Resembles scope scope' →
    (rule.script sources call scope).Resembles (rule.script sources call scope')

variable {scope scope' : Scope}

namespace Script

theorem resembles_require
    {call : MacroCall}
    {name : String}
    {next next' : String → Script}
    (rest : ∀ value, (next value).Resembles (next' value)) :
    (call.require name next).Resembles (call.require name next') := by
  unfold MacroCall.require
  split
  · exact rest _
  · exact .fail _

theorem resembles_repeatFrom
    (resembles : scope.Resembles scope')
    (nodes : List Node)
    (bindings : Nat → List (String × String))
    (remaining index : Nat)
    (expanded : List (List Node)) :
    (repeatFrom nodes scope bindings index expanded remaining).Resembles
      (repeatFrom nodes scope' bindings index expanded remaining) := by
  induction remaining generalizing index expanded with
  | zero =>
      exact .finish _ resembles
  | succ remaining inductionHypothesis =>
      exact .charge (.expand nodes (resembles.child.bindAll _) fun _ _ _ _ =>
        inductionHypothesis _ _)

theorem resembles_defineAll
    {next next' : Script}
    (rest : next.Resembles next')
    (aliases : List String)
    (rule : MacroRule) :
    (defineAll aliases rule next).Resembles (defineAll aliases rule next') := by
  induction aliases with
  | nil =>
      exact rest
  | cons first others inductionHypothesis =>
      exact .define first _ _ inductionHypothesis

end Script

namespace UserMacro

theorem resembles_bindDefaults
    {next next' : Scope → Script}
    (rest : ∀ inner inner', inner.Resembles inner' → (next inner).Resembles (next' inner'))
    (parameters : List Attribute)
    (resembles : scope.Resembles scope') :
    (bindDefaults parameters scope next).Resembles (bindDefaults parameters scope' next') := by
  induction parameters generalizing scope scope' with
  | nil =>
      exact rest _ _ resembles
  | cons parameter others inductionHypothesis =>
      exact .interpolate _ resembles fun value => inductionHypothesis (resembles.bind _ value)

/-- Macros of documents only look names up. -/
theorem onlyLooksUp_toRule
    (definition : UserMacro) :
    definition.toRule.OnlyLooksUp := by
  intro sources call scope scope' resembles
  refine resembles_bindDefaults (fun inner inner' inside => ?_) _ resembles.child
  exact .expand _ (inside.bindAll _) fun nodes _ _ _ => .finish nodes resembles

end UserMacro

namespace StandardMacro

theorem onlyLooksUp_condition :
    condition.OnlyLooksUp := by
  intro sources call scope scope' resembles
  simp only [condition]
  split
  · exact .fail _
  · exact .evaluate _ resembles fun value =>
      .expand _ resembles fun nodes _ _ left => .finish nodes left

theorem onlyLooksUp_whenBound
    (all : Bool) :
    (whenBound all).OnlyLooksUp := by
  intro sources call scope scope' resembles
  simp only [whenBound, resembles.lookup?]
  generalize (if all = true then _ else _ : Bool) = holds
  split
  · exact .expand _ resembles fun nodes _ _ left => .finish nodes left
  · exact .finish [] resembles

theorem onlyLooksUp_forEach :
    forEach.OnlyLooksUp := by
  intro sources call scope scope' resembles
  simp only [forEach]
  split
  · exact .fail _
  · split
    · exact .fail _
    · exact Script.resembles_repeatFrom resembles _ _ _ 0 []

theorem onlyLooksUp_forEachNested :
    forEachNested.OnlyLooksUp := by
  intro sources call scope scope' resembles
  simp only [forEachNested]
  split
  · exact .fail _
  · exact Script.resembles_repeatFrom resembles _ _ _ 0 []

theorem onlyLooksUp_loop :
    loop.OnlyLooksUp := by
  intro sources call scope scope' resembles
  simp only [loop]
  split
  · exact .fail _
  · split
    · exact .fail _
    · exact Script.resembles_repeatFrom resembles _ _ _ 0 []

theorem resembles_calculateAll
    (resembles : scope.Resembles scope')
    (attributes : List Attribute) :
    (calculateAll attributes scope).Resembles (calculateAll attributes scope') := by
  induction attributes generalizing scope scope' with
  | nil =>
      exact .finish [] resembles
  | cons entry rest inductionHypothesis =>
      exact .evaluate _ resembles fun value => inductionHypothesis (resembles.bind _ _)

theorem resembles_invokeAll
    (resembles : scope.Resembles scope')
    (attributes : List Attribute) :
    (invokeAll attributes scope).Resembles (invokeAll attributes scope') := by
  induction attributes generalizing scope scope' with
  | nil =>
      exact .finish [] resembles
  | cons entry rest inductionHypothesis =>
      refine .invoke _ fun answer => ?_
      cases answer with
      | some value =>
          exact inductionHypothesis (resembles.bind _ value)
      | none =>
          exact inductionHypothesis resembles

theorem resembles_bindFrom
    {source : Scope → String → Option String}
    (sameSource :
      ∀ scope scope' : Scope, scope.Resembles scope' →
        ∀ key, source scope key = source scope' key)
    (path : TagPath)
    (resembles : scope.Resembles scope')
    (attributes : List Attribute) :
    (bindFrom source path attributes scope).Resembles (bindFrom source path attributes scope') := by
  induction attributes generalizing scope scope' with
  | nil =>
      exact .finish [] resembles
  | cons entry rest inductionHypothesis =>
      rw [bindFrom, bindFrom, sameSource scope scope' resembles]
      split
      · exact inductionHypothesis (resembles.bind _ _)
      · exact .record _ _ (inductionHypothesis resembles)

theorem resembles_withMessage
    {call : MacroCall}
    (resembles : scope.Resembles scope')
    {next next' : String → Script}
    (rest : ∀ message, (next message).Resembles (next' message)) :
    (withMessage call scope next).Resembles (withMessage call scope' next') := by
  unfold withMessage
  split
  · split <;> exact rest _
  · exact .interpolate _ resembles rest

theorem onlyLooksUp_style :
    style.OnlyLooksUp := by
  intro sources call scope scope' resembles
  refine Script.resembles_require fun tags => Script.resembles_require fun name =>
    Script.resembles_require fun value => ?_
  induction sources.items tags with
  | nil =>
      exact .finish [] resembles
  | cons tag rest inductionHypothesis =>
      exact .addDefault tag _ inductionHypothesis

theorem onlyLooksUp_define :
    define.OnlyLooksUp := by
  intro sources call scope scope' resembles
  refine Script.resembles_require fun raw => ?_
  split
  · exact .fail _
  · exact Script.resembles_defineAll (.finish [] resembles) _ _

/-- The macros of the language only look names up. -/
theorem onlyLooksUp_of_mem_all :
    ∀ entry ∈ all, entry.2.OnlyLooksUp := by
  simp only [all, List.forall_mem_cons, List.mem_nil_iff, false_implies, implies_true, and_true]
  refine ⟨onlyLooksUp_condition, onlyLooksUp_forEach, onlyLooksUp_forEachNested,
    onlyLooksUp_loop, ?assign, ?calculate, ?invoke, ?argument, ?translation, ?template, ?comment,
    ?children, ?info, ?debug, ?error, ?throw, onlyLooksUp_style, onlyLooksUp_define,
    onlyLooksUp_whenBound true, onlyLooksUp_whenBound false⟩
  all_goals
    intro sources call scope scope' resembles
  case assign =>
    exact .finish [] (resembles.bindAll _)
  case calculate =>
    exact resembles_calculateAll resembles _
  case invoke =>
    exact resembles_invokeAll resembles _
  case argument =>
    exact resembles_bindFrom (fun _ _ same => same.lookup? sources) _ resembles _
  case translation =>
    exact resembles_bindFrom (fun _ _ _ _ => rfl) _ resembles _
  case template =>
    exact Script.resembles_require fun path =>
      .insertTemplate path _ _ resembles fun nodes => .finish nodes resembles
  case comment =>
    exact .finish [] resembles
  case children =>
    exact .expand _ resembles fun nodes _ _ left => .finish nodes left
  case throw =>
    exact resembles_withMessage resembles fun _ => .fail _
  all_goals
    exact resembles_withMessage resembles fun _ => .record _ _ (.finish [] resembles)

end StandardMacro

end WidgetMarkup
