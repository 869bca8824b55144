import WidgetMarkup.Proofs.Vocabulary.StandardRules

namespace WidgetMarkup

open Markup

/-!
# What the macros of the language may do

A script may do things that no macro of the language does: expand nodes over and over without
paying, fail as if the engine had to halt, or define a macro that no document could define. Scripts
that do none of these are lawful, and so are all macros of the language and of documents.
-/

namespace Script

/--
Whether a script is lawful: it expands nodes no more often than it has been given for free and has
paid for, it does not halt the engine, and it defines macros only as documents do.
-/
def IsLawful : Nat → Script → Prop
  | _, .finish _ _ => True
  | _, .fail problem => problem.isHalt = false
  | free, .charge next => next.IsLawful (free + 1)
  | free, .expand _ _ next => 0 < free ∧ ∀ nodes scope, (next nodes scope).IsLawful (free - 1)
  | free, .insertTemplate _ _ _ _ next => 0 < free ∧ ∀ nodes, (next nodes).IsLawful (free - 1)
  | free, .interpolate _ _ next => ∀ text, (next text).IsLawful free
  | free, .evaluate _ _ next => ∀ value, (next value).IsLawful free
  | free, .invoke _ next => ∀ answer, (next answer).IsLawful free
  | free, .define _ interpolates body next =>
      (∃ definition : UserMacro, definition.toRule = ⟨interpolates, body⟩) ∧ next.IsLawful free
  | free, .addDefault _ _ next => next.IsLawful free
  | free, .record _ _ next => next.IsLawful free

/-- Repeating nodes is lawful without anything for free: each time is paid for. -/
theorem isLawful_repeatFrom
    (free : Nat)
    (nodes : List Node)
    (scope : Scope)
    (bindings : Nat → List (String × String))
    (remaining index : Nat)
    (expanded : List (List Node)) :
    (repeatFrom nodes scope bindings index expanded remaining).IsLawful free := by
  induction remaining generalizing index expanded with
  | zero =>
      trivial
  | succ remaining inductionHypothesis =>
      exact ⟨Nat.succ_pos free, fun nodes' _ =>
        inductionHypothesis (index + 1) (nodes' :: expanded)⟩

/-- What only repeats nodes is lawful without anything for free. -/
theorem IsRepetition.isLawful
    {script : Script}
    (isRepetition : script.IsRepetition)
    (free : Nat) :
    script.IsLawful free := by
  cases isRepetition with
  | fail noHalt =>
      exact noHalt
  | repetition nodes scope count bindings =>
      exact isLawful_repeatFrom free nodes scope bindings count 0 []

/-- Scripts that are put together in the ways of the language are lawful. -/
theorem IsStandard.isLawful
    {script : Script}
    (isStandard : script.IsStandard) :
    script.IsLawful 1 := by
  induction isStandard with
  | fail noHalt =>
      exact noHalt
  | nothing scope =>
      trivial
  | pass nodes scope leave =>
      exact ⟨Nat.one_pos, fun _ _ => trivial⟩
  | insertion template marker content inside left =>
      exact ⟨Nat.one_pos, fun _ => trivial⟩
  | repetition nodes scope count bindings =>
      exact isLawful_repeatFrom 1 nodes scope bindings count 0 []
  | interpolate _ inductionHypothesis
  | evaluate _ inductionHypothesis
  | invoke _ inductionHypothesis =>
      exact inductionHypothesis
  | define name definition same _ inductionHypothesis =>
      exact ⟨⟨definition, same⟩, inductionHypothesis⟩
  | addDefault tag entry _ inductionHypothesis
  | record level text _ inductionHypothesis =>
      exact inductionHypothesis

end Script

namespace MacroRule

/-- Whether a macro is lawful however it is called, given how often it may expand nodes for free. -/
def IsLawful (free : Nat) (rule : MacroRule) : Prop :=
  ∀ sources call scope, (rule.script sources call scope).IsLawful free

/-- Macros that act in the ways of the language are lawful. -/
theorem IsStandard.isLawful
    {rule : MacroRule}
    (isStandard : rule.IsStandard) :
    rule.IsLawful 1 :=
  fun sources call scope => (isStandard sources call scope).isLawful

end MacroRule

namespace StandardMacro

/-- The macros that repeat nodes. -/
def loops : List MacroRule :=
  [forEach, forEachNested, loop]

/-- Macros that repeat nodes expand none without paying. -/
theorem isLawful_of_mem_loops
    {rule : MacroRule}
    (isLoop : rule ∈ loops)
    (free : Nat) :
    rule.IsLawful free := by
  intro sources call scope
  simp only [loops, List.mem_cons, List.not_mem_nil, or_false] at isLoop
  rcases isLoop with rfl | rfl | rfl
  · exact (isRepetition_forEach sources call scope).isLawful free
  · exact (isRepetition_forEachNested sources call scope).isLawful free
  · exact (isRepetition_loop sources call scope).isLawful free

end StandardMacro

end WidgetMarkup
