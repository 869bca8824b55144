import WidgetMarkup.Vocabulary.StandardMacros

namespace WidgetMarkup

open Markup

/-!
# The scopes that scripts leave

A macro of the language does one of three things to the scope that it is called in: it binds its
attributes' names there, it has its children expanded there, or it leaves the scope as it was,
whatever is bound while it is carried out. Macros of documents do the last.
-/

namespace Scope

/-- Whether a scope becomes another one by binding names that are allowed. -/
def Becomes (allowed : String → Prop) (scope left : Scope) : Prop :=
  ∃ bindings : List (String × String),
    left = scope.bindAll bindings ∧ ∀ binding ∈ bindings, allowed binding.1

namespace Becomes

variable {allowed : String → Prop} {scope between left : Scope}

theorem refl
    (allowed : String → Prop)
    (scope : Scope) :
    scope.Becomes allowed scope :=
  ⟨[], rfl, nofun⟩

theorem trans
    (first : scope.Becomes allowed between)
    (second : between.Becomes allowed left) :
    scope.Becomes allowed left := by
  obtain ⟨earlier, rfl, earlierAllowed⟩ := first
  obtain ⟨later, rfl, laterAllowed⟩ := second
  refine ⟨earlier ++ later, (List.foldl_append ..).symm, fun binding member => ?_⟩
  exact (List.mem_append.1 member).elim (earlierAllowed binding) (laterAllowed binding)

theorem mono
    {allowed' : String → Prop}
    (becomes : scope.Becomes allowed left)
    (weaker : ∀ name, allowed name → allowed' name) :
    scope.Becomes allowed' left := by
  obtain ⟨bindings, same, isAllowed⟩ := becomes
  exact ⟨bindings, same, fun binding member => weaker _ (isAllowed binding member)⟩

theorem bind
    {name : String}
    (isAllowed : allowed name)
    (scope : Scope)
    (value : String) :
    scope.Becomes allowed (scope.bind name value) := by
  refine ⟨[(name, value)], rfl, fun binding member => ?_⟩
  rw [List.mem_singleton.1 member]
  exact isAllowed

/-- Names that may not be bound are bound as before. -/
theorem get?_eq
    (becomes : scope.Becomes allowed left)
    {name : String}
    (other : ¬ allowed name) :
    left.get? name = scope.get? name := by
  obtain ⟨bindings, rfl, isAllowed⟩ := becomes
  induction bindings generalizing scope with
  | nil =>
      rfl
  | cons first rest inductionHypothesis =>
      have distinct : name ≠ first.1 :=
        fun same => other (same ▸ isAllowed first (List.mem_cons_self ..))
      have kept := @inductionHypothesis (scope.bind first.1 first.2)
        fun binding member => isAllowed binding (.tail _ member)
      rw [get?_bind, if_neg distinct] at kept
      exact kept

/-- The scopes around stay as they are. -/
theorem enclosing_eq
    (becomes : scope.Becomes allowed left) :
    left.enclosing = scope.enclosing := by
  obtain ⟨bindings, rfl, isAllowed⟩ := becomes
  induction bindings generalizing scope with
  | nil =>
      rfl
  | cons first rest inductionHypothesis =>
      exact @inductionHypothesis (scope.bind first.1 first.2) fun binding member =>
        isAllowed binding (.tail _ member)

end Becomes

end Scope

/-- The names of attributes. -/
def Markup.Attribute.names (attributes : List Attribute) : List String :=
  attributes.map Attribute.name

namespace Script

/-- Whether all scopes that a script may leave are of a kind, whatever nodes leave in between. -/
def Leaves (holds : Scope → Prop) : Script → Prop
  | .finish _ scope => holds scope
  | .fail _ => True
  | .charge next => next.Leaves holds
  | .expand _ _ next => ∀ nodes scope, (next nodes scope).Leaves holds
  | .insertTemplate _ _ _ _ next => ∀ nodes, (next nodes).Leaves holds
  | .interpolate _ _ next => ∀ text, (next text).Leaves holds
  | .evaluate _ _ next => ∀ value, (next value).Leaves holds
  | .invoke _ next => ∀ answer, (next answer).Leaves holds
  | .define _ _ _ next => next.Leaves holds
  | .addDefault _ _ next => next.Leaves holds
  | .record _ _ next => next.Leaves holds

/-- Whether a script does nothing with scopes but to expand nodes in a scope and to leave what they
leave. -/
def StaysIn (scope : Scope) : Script → Prop
  | .finish _ left => left = scope
  | .fail _ => True
  | .evaluate _ _ next => ∀ value, (next value).StaysIn scope
  | .expand _ inner next =>
      inner = scope ∧ ∀ nodes left, next nodes left = .finish nodes left
  | _ => False

theorem Leaves.mono
    {holds holds' : Scope → Prop}
    (weaker : ∀ scope, holds scope → holds' scope)
    {script : Script}
    (leaves : script.Leaves holds) :
    script.Leaves holds' := by
  induction script with
  | finish nodes scope =>
      exact weaker scope leaves
  | fail problem =>
      trivial
  | charge next inductionHypothesis
  | addDefault tag entry next inductionHypothesis
  | record level text next inductionHypothesis
  | define name interpolates body next _ inductionHypothesis =>
      exact inductionHypothesis leaves
  | expand nodes scope next inductionHypothesis =>
      exact fun nodes scope => inductionHypothesis nodes scope (leaves nodes scope)
  | insertTemplate _ _ _ _ next inductionHypothesis
  | interpolate raw scope next inductionHypothesis
  | evaluate source scope next inductionHypothesis
  | invoke reference next inductionHypothesis =>
      exact fun answer => inductionHypothesis answer (leaves answer)

/-- Repeating nodes leaves the scope as it was. -/
theorem leaves_repeatFrom
    (nodes : List Node)
    (scope : Scope)
    (bindings : Nat → List (String × String))
    (remaining index : Nat)
    (expanded : List (List Node)) :
    (repeatFrom nodes scope bindings index expanded remaining).Leaves (· = scope) := by
  induction remaining generalizing index expanded with
  | zero =>
      rfl
  | succ remaining inductionHypothesis =>
      exact fun nodes' _ => inductionHypothesis (index + 1) (nodes' :: expanded)

theorem leaves_defineAll
    {holds : Scope → Prop}
    {next : Script}
    (rule : MacroRule)
    (rest : next.Leaves holds)
    (aliases : List String) :
    (defineAll aliases rule next).Leaves holds := by
  induction aliases with
  | nil =>
      exact rest
  | cons first others inductionHypothesis =>
      exact inductionHypothesis

end Script

theorem MacroCall.leaves_require
    {holds : Scope → Prop}
    {call : MacroCall}
    {name : String}
    {next : String → Script}
    (rest : ∀ value, (next value).Leaves holds) :
    (call.require name next).Leaves holds := by
  unfold require
  split
  · exact rest _
  · trivial

namespace MacroRule

/-- Whether a macro leaves the scope that it is called in as it was. -/
def Encloses (rule : MacroRule) : Prop :=
  ∀ sources call scope, (rule.script sources call scope).Leaves (· = scope)

/-- Whether a macro binds nothing but its attributes' names in the scope that it is called in. -/
def Binds (rule : MacroRule) : Prop :=
  ∀ sources call scope,
    (rule.script sources call scope).Leaves
      (scope.Becomes (· ∈ Attribute.names call.attributes))

/-- Whether a macro has nodes expanded in the scope that it is called in and leaves what they
leave. -/
def IsTransparent (rule : MacroRule) : Prop :=
  ∀ sources call scope, (rule.script sources call scope).StaysIn scope

end MacroRule

/-- Macros of documents leave the scope as it was. -/
theorem UserMacro.encloses_toRule
    (definition : UserMacro) :
    definition.toRule.Encloses := by
  intro sources call scope
  have bound (parameters : List Attribute) (inner : Scope) (next : Scope → Script)
      (rest : ∀ inner, (next inner).Leaves (· = scope)) :
      (bindDefaults parameters inner next).Leaves (· = scope) := by
    induction parameters generalizing inner with
    | nil =>
        exact rest inner
    | cons parameter others inductionHypothesis =>
        exact fun value => inductionHypothesis (inner.bind parameter.name value)
  exact bound definition.parameters scope.child _ fun inner _ _ => rfl

namespace StandardMacro

/-- The macros that bind names in the scope that they are called in. -/
def binding : List MacroRule :=
  [assign, calculate, invoke, argument, translation]

/-- The macros whose children are expanded in the scope that they are called in. -/
def transparent : List MacroRule :=
  [condition, whenBound true, whenBound false, children]

/-- The macros of the language whose nodes are expanded in scopes of their own. -/
def enclosing : List MacroRule :=
  [forEach, forEachNested, loop, template]

theorem leaves_withMessage
    {holds : Scope → Prop}
    {next : String → Script}
    (rest : ∀ message, (next message).Leaves holds)
    (call : MacroCall)
    (scope : Scope) :
    (withMessage call scope next).Leaves holds := by
  unfold withMessage
  split
  · split <;> exact rest _
  · exact rest

theorem leaves_addDefaults
    (entry : Attribute)
    (scope : Scope)
    (tags : List String) :
    (tags.foldr (fun tag rest => Script.addDefault tag entry rest)
      (.finish [] scope)).Leaves (· = scope) := by
  induction tags with
  | nil =>
      rfl
  | cons tag rest inductionHypothesis =>
      exact inductionHypothesis

theorem encloses_forEach :
    forEach.Encloses := by
  intro sources call scope
  simp only [forEach]
  split
  · trivial
  · split
    · trivial
    · exact Script.leaves_repeatFrom call.children scope _ _ 0 []

theorem encloses_forEachNested :
    forEachNested.Encloses := by
  intro sources call scope
  simp only [forEachNested]
  split
  · trivial
  · exact Script.leaves_repeatFrom call.children scope _ _ 0 []

theorem encloses_loop :
    loop.Encloses := by
  intro sources call scope
  simp only [loop]
  split
  · trivial
  · split
    · trivial
    · exact Script.leaves_repeatFrom call.children scope _ _ 0 []

theorem encloses_template :
    template.Encloses :=
  fun _ _ _ => MacroCall.leaves_require fun _ _ => rfl

theorem encloses_log
    (level : LogLevel) :
    (log level).Encloses := by
  intro sources call scope
  refine leaves_withMessage (fun message => ?_) call scope
  rfl

theorem encloses_throw :
    throw.Encloses := by
  intro sources call scope
  refine leaves_withMessage (fun message => ?_) call scope
  trivial

theorem encloses_style :
    style.Encloses := by
  intro sources call scope
  refine MacroCall.leaves_require fun tags => ?_
  refine MacroCall.leaves_require fun name => ?_
  refine MacroCall.leaves_require fun value => ?_
  exact leaves_addDefaults ⟨name, value⟩ scope (sources.items tags)

theorem encloses_define :
    define.Encloses := by
  intro sources call scope
  refine MacroCall.leaves_require fun raw => ?_
  split
  · trivial
  · refine Script.leaves_defineAll _ ?_ _
    rfl

/-- The macros whose nodes are expanded in scopes of their own leave the scope as it was. -/
theorem encloses_of_mem_enclosing :
    ∀ rule ∈ enclosing, rule.Encloses := by
  simp only [enclosing, List.forall_mem_cons, List.mem_nil_iff, false_implies, implies_true,
    and_true]
  exact ⟨encloses_forEach, encloses_forEachNested, encloses_loop, encloses_template⟩

/-- A name that is bound to the value of the first attribute is one of the attributes' names, and so
are those that are bound after it. -/
theorem leaves_of_bind
    {entry : Attribute}
    {rest : List Attribute}
    {scope : Scope}
    {value : String}
    {next : Script}
    (leaves : next.Leaves ((scope.bind entry.name value).Becomes (· ∈ Attribute.names rest))) :
    next.Leaves (scope.Becomes (· ∈ Attribute.names (entry :: rest))) := by
  refine leaves.mono fun left becomes => ?_
  have first : scope.Becomes (· ∈ Attribute.names (entry :: rest)) (scope.bind entry.name value) :=
    .bind (List.mem_cons_self ..) scope value
  exact first.trans (becomes.mono fun name member => .tail _ member)

theorem leaves_of_unbound
    {entry : Attribute}
    {rest : List Attribute}
    {scope : Scope}
    {next : Script}
    (leaves : next.Leaves (scope.Becomes (· ∈ Attribute.names rest))) :
    next.Leaves (scope.Becomes (· ∈ Attribute.names (entry :: rest))) :=
  leaves.mono fun _ becomes => becomes.mono fun _ member => .tail _ member

theorem binds_assign :
    assign.Binds := by
  intro sources call scope
  refine ⟨_, rfl, fun binding member => ?_⟩
  obtain ⟨entry, listed, rfl⟩ := List.mem_map.1 member
  exact List.mem_map_of_mem listed

theorem binds_calculate :
    calculate.Binds := by
  intro sources call scope
  suffices bound : ∀ attributes scope,
      (calculateAll attributes scope).Leaves (scope.Becomes (· ∈ Attribute.names attributes)) from
    bound call.attributes scope
  intro attributes
  induction attributes with
  | nil =>
      exact fun scope => .refl _ scope
  | cons entry rest inductionHypothesis =>
      exact fun scope value => leaves_of_bind (inductionHypothesis _)

theorem binds_invoke :
    invoke.Binds := by
  intro sources call scope
  suffices bound : ∀ attributes scope,
      (invokeAll attributes scope).Leaves (scope.Becomes (· ∈ Attribute.names attributes)) from
    bound call.attributes scope
  intro attributes
  induction attributes with
  | nil =>
      exact fun scope => .refl _ scope
  | cons entry rest inductionHypothesis =>
      intro scope answer
      cases answer with
      | some value =>
          exact leaves_of_bind (inductionHypothesis _)
      | none =>
          exact leaves_of_unbound (inductionHypothesis scope)

theorem leaves_bindFrom
    (source : Scope → String → Option String)
    (path : TagPath)
    (attributes : List Attribute)
    (scope : Scope) :
    (bindFrom source path attributes scope).Leaves
      (scope.Becomes (· ∈ Attribute.names attributes)) := by
  induction attributes generalizing scope with
  | nil =>
      exact .refl _ scope
  | cons entry rest inductionHypothesis =>
      rw [bindFrom]
      split
      · exact leaves_of_bind (inductionHypothesis _)
      · exact leaves_of_unbound (inductionHypothesis scope)

/-- The macros that bind names bind their attributes' names and no others. -/
theorem binds_of_mem_binding :
    ∀ rule ∈ binding, rule.Binds := by
  simp only [binding, List.forall_mem_cons, List.mem_nil_iff, false_implies, implies_true,
    and_true]
  exact ⟨binds_assign, binds_calculate, binds_invoke,
    fun _ call scope => leaves_bindFrom _ _ call.attributes scope,
    fun _ call scope => leaves_bindFrom _ _ call.attributes scope⟩

theorem isTransparent_condition :
    condition.IsTransparent := by
  intro sources call scope
  simp only [condition]
  split
  · trivial
  · exact fun value => ⟨rfl, fun _ _ => rfl⟩

theorem isTransparent_whenBound
    (all : Bool) :
    (whenBound all).IsTransparent := by
  intro sources call scope
  simp only [whenBound]
  generalize (if all = true then _ else _ : Bool) = holds
  cases holds with
  | true =>
      exact ⟨rfl, fun _ _ => rfl⟩
  | false =>
      rfl

/-- The macros whose children are expanded in the scope that they are called in do nothing else with
it. -/
theorem isTransparent_of_mem_transparent :
    ∀ rule ∈ transparent, rule.IsTransparent := by
  simp only [transparent, List.forall_mem_cons, List.mem_nil_iff, false_implies, implies_true,
    and_true]
  exact ⟨isTransparent_condition, isTransparent_whenBound true, isTransparent_whenBound false,
    fun _ _ _ => ⟨rfl, fun _ _ => rfl⟩⟩

/-- Every macro of the language binds names, has its children expanded in place, or leaves the scope
as it was. -/
theorem scoping_of_mem_all
    {names : List String}
    {rule : MacroRule}
    (listed : (names, rule) ∈ all) :
    rule ∈ binding ∨ rule ∈ transparent ∨ rule.Encloses := by
  simp only [all, List.mem_cons, Prod.mk.injEq, List.not_mem_nil, or_false] at listed
  rcases listed with ⟨_, rfl⟩ | ⟨_, rfl⟩ | ⟨_, rfl⟩ | ⟨_, rfl⟩ | ⟨_, rfl⟩ | ⟨_, rfl⟩ | ⟨_, rfl⟩ |
    ⟨_, rfl⟩ | ⟨_, rfl⟩ | ⟨_, rfl⟩ | ⟨_, rfl⟩ | ⟨_, rfl⟩ | ⟨_, rfl⟩ | ⟨_, rfl⟩ | ⟨_, rfl⟩ |
    ⟨_, rfl⟩ | ⟨_, rfl⟩ | ⟨_, rfl⟩ | ⟨_, rfl⟩ | ⟨_, rfl⟩
  · exact .inr (.inl (by simp [transparent]))
  · exact .inr (.inr encloses_forEach)
  · exact .inr (.inr encloses_forEachNested)
  · exact .inr (.inr encloses_loop)
  · exact .inl (by simp [binding])
  · exact .inl (by simp [binding])
  · exact .inl (by simp [binding])
  · exact .inl (by simp [binding])
  · exact .inl (by simp [binding])
  · exact .inr (.inr encloses_template)
  · exact .inr (.inr fun _ _ _ => rfl)
  · exact .inr (.inl (by simp [transparent]))
  · exact .inr (.inr (encloses_log .info))
  · exact .inr (.inr (encloses_log .debug))
  · exact .inr (.inr (encloses_log .error))
  · exact .inr (.inr encloses_throw)
  · exact .inr (.inr encloses_style)
  · exact .inr (.inr encloses_define)
  · exact .inr (.inl (by simp [transparent]))
  · exact .inr (.inl (by simp [transparent]))

end StandardMacro

end WidgetMarkup
