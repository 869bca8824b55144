import WidgetMarkup.Proofs.Expression.Meaning

namespace WidgetMarkup.Expression

/-!
# Evaluations that look up names in related ways

Evaluation only puts computations together: it gives values, looks up names and lets one step follow
another. So any relation between computations that is kept by this is kept by evaluations.
-/

variable {m : Type → Type} [Monad m]

/-- Whether a relation between computations holds of values that are given, and of what is put
together of computations in this relation. -/
structure IsSequential (related : (α : Type) → m α → m α → Prop) : Prop where
  pure :
    ∀ {α : Type} (value : α), related α (Pure.pure value) (Pure.pure value)
  bind :
    ∀ {α β : Type} {first first' : m α} {next next' : α → m β},
      related α first first' →
        (∀ value, related β (next value) (next' value)) →
          related β (first >>= next) (first' >>= next')

namespace IsSequential

variable
  {related : (α : Type) → m α → m α → Prop}
  {resolve resolve' : String → m (Option String)}

/-- One action after another keeps the relation, also where the first may fail. -/
theorem run_bind
    {α β : Type}
    (isSequential : IsSequential related)
    {first first' : ExceptT ExpressionError m α}
    {next next' : α → ExceptT ExpressionError m β}
    (firsts : related _ first.run first'.run)
    (nexts : ∀ value, related _ (next value).run (next' value).run) :
    related _ (first >>= next).run (first' >>= next').run := by
  rw [ExceptT.run_bind, ExceptT.run_bind]
  refine isSequential.bind firsts fun outcome => ?_
  cases outcome with
  | ok value =>
      exact nexts value
  | error error =>
      exact isSequential.pure _

variable [LawfulMonad m]

/-- A step of an evaluation keeps the relation if looking up names does. -/
theorem run_step
    (isSequential : IsSequential related)
    (resolves : ∀ name, related _ (resolve name) (resolve' name))
    (values : List Value)
    (step : Step) :
    related _ (step.run resolve values).run (step.run resolve' values).run := by
  have looked (name : String) :
      related _ (ExceptT.lift (resolve name) : ExceptT ExpressionError m _).run
        (ExceptT.lift (resolve' name)).run := by
    rw [ExceptT.run_lift, ExceptT.run_lift, map_eq_pure_bind, map_eq_pure_bind]
    exact isSequential.bind (resolves name) fun _ => isSequential.pure _
  cases step with
  | number value | text value =>
      exact isSequential.pure _
  | identifier name =>
      rw [run_identifier, run_identifier]
      split
      · exact isSequential.pure _
      · exact isSequential.run_bind (looked name) fun _ => isSequential.pure _
  | placeholder source =>
      refine isSequential.run_bind (looked source) fun answer => ?_
      cases answer <;> exact isSequential.pure _
  | unary operator =>
      cases values with
      | nil =>
          exact isSequential.pure _
      | cons operand rest =>
          exact isSequential.run_bind (isSequential.pure _) fun _ => isSequential.pure _
  | binary operator =>
      match values with
      | [] | [_] =>
          exact isSequential.pure _
      | right :: left :: rest =>
          exact isSequential.run_bind (isSequential.pure _) fun _ => isSequential.pure _

theorem runSteps
    (isSequential : IsSequential related)
    (resolves : ∀ name, related _ (resolve name) (resolve' name))
    (steps : List Step)
    (values : List Value) :
    related _ (runSteps resolve steps values).run (runSteps resolve' steps values).run := by
  induction steps generalizing values with
  | nil =>
      exact isSequential.pure _
  | cons step rest inductionHypothesis =>
      exact isSequential.run_bind (isSequential.run_step resolves values step)
        inductionHypothesis

/-- Evaluating an expression keeps the relation if looking up names does. -/
theorem evaluate
    (isSequential : IsSequential related)
    (resolve resolve' : String → m (Option String))
    (resolves : ∀ name, related _ (resolve name) (resolve' name))
    (source : String) :
    related _ (evaluate resolve source).run (evaluate resolve' source).run := by
  refine isSequential.run_bind (isSequential.pure _) fun tokens => ?_
  refine isSequential.run_bind (isSequential.runSteps resolves _ []) fun values => ?_
  cases (evaluationOfTokens tokens).fault <;> cases values <;> exact isSequential.pure _

end IsSequential

end WidgetMarkup.Expression
