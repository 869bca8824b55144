import WidgetMarkup.Proofs.Expression.Grouping
import WidgetMarkup.Proofs.Expression.Meaning

namespace WidgetMarkup.Expression

/-!
# Evaluation is the meaning of the tree

The steps of a tree put its value on the list of values, and fail where the tree has no value. So
an expression has a value exactly if it has a tree by the grammar and the tree has this value.
-/

variable {σ : Type}

/-- One action after another succeeds exactly if both do. -/
theorem run_bind_eq_ok_iff
    {α β : Type}
    {first : ExceptT ExpressionError (StateM σ) α}
    {next : α → ExceptT ExpressionError (StateM σ) β}
    {memory final : σ}
    {result : β} :
    (first >>= next).run.run memory = (.ok result, final) ↔
      ∃ value between,
        first.run.run memory = (.ok value, between) ∧
          (next value).run.run between = (.ok result, final) := by
  rw [ExceptT.run_bind, StateT.run_bind]
  rcases first.run.run memory with ⟨outcome, between⟩
  cases outcome with
  | error fault =>
      constructor
      · rintro ⟨⟩
      · rintro ⟨value, between, ⟨⟩, -⟩
  | ok value =>
      constructor
      · intro ran
        exact ⟨value, between, rfl, ran⟩
      · rintro ⟨value, between, ⟨⟩, ran⟩
        exact ran

theorem run_mk_pure_eq_ok_iff
    {α : Type}
    {outcome : Except ExpressionError α}
    {result : α}
    {memory final : σ} :
    (ExceptT.mk (pure outcome) : ExceptT ExpressionError (StateM σ) α).run.run memory =
        (.ok result, final) ↔
      outcome = .ok result ∧ memory = final :=
  Prod.ext_iff

theorem run_pure_eq_ok_iff
    {α : Type}
    {value result : α}
    {memory final : σ} :
    (pure value : ExceptT ExpressionError (StateM σ) α).run.run memory = (.ok result, final) ↔
      value = result ∧ memory = final := by
  rw [← Except.ok.injEq (ε := ExpressionError) value result]
  exact run_mk_pure_eq_ok_iff

theorem run_lift_eq_ok_iff
    {ask : StateM σ (Option String)}
    {answer : Option String}
    {memory final : σ} :
    (ExceptT.lift ask : ExceptT ExpressionError (StateM σ) (Option String)).run.run memory =
        (.ok answer, final) ↔
      ask.run memory = (answer, final) := by
  rw [ExceptT.run_lift, StateT.run_map]
  rcases ask.run memory with ⟨found, between⟩
  constructor <;>
    · rintro ⟨⟩
      rfl

/-- A negative operand has to be a number. -/
theorem applyUnary_minus_eq_ok_iff
    {operand value : Value} :
    applyUnary .minus operand = .ok value ↔
      ∃ number, operand.number? = some number ∧ Value.number (-number) = value := by
  cases isNumber : operand.number? <;> simp [applyUnary, isNumber]

/-- A name, and then more steps, succeed exactly if the name has a value and these steps succeed. -/
theorem runSteps_identifier_eq_ok_iff
    {resolve : String → StateM σ (Option String)}
    {name : String}
    {rest : List Step}
    {values results : List Value}
    {memory final : σ} :
    (runSteps resolve (.identifier name :: rest) values).run.run memory = (.ok results, final) ↔
      ∃ value between,
        Evaluates resolve (.identifier name) memory value between ∧
          (runSteps resolve rest (value :: values)).run.run between = (.ok results, final) := by
  simp only [runSteps, run_identifier, run_bind_eq_ok_iff]
  cases isLiteral : literal? name with
  | some value =>
      simp only [run_pure_eq_ok_iff]
      constructor
      · rintro ⟨_, _, ⟨rfl, rfl⟩, ran⟩
        exact ⟨_, _, .literal _ isLiteral, ran⟩
      · rintro ⟨_, _, evaluates, ran⟩
        cases evaluates with
        | literal _ isLiteral' =>
            obtain rfl := Option.some.inj (isLiteral.symm.trans isLiteral')
            exact ⟨_, _, ⟨rfl, rfl⟩, ran⟩
        | bound notLiteral | unbound notLiteral =>
            simp [isLiteral] at notLiteral
  | none =>
      simp only [run_bind_eq_ok_iff, run_lift_eq_ok_iff, run_pure_eq_ok_iff]
      constructor
      · rintro ⟨_, _, ⟨bound, _, answered, rfl, rfl⟩, ran⟩
        cases bound with
        | some raw =>
            exact ⟨_, _, .bound isLiteral answered, ran⟩
        | none =>
            exact ⟨_, _, .unbound isLiteral answered, ran⟩
      · rintro ⟨_, _, evaluates, ran⟩
        cases evaluates with
        | literal _ isLiteral' =>
            simp [isLiteral] at isLiteral'
        | bound _ answered | unbound _ answered =>
            exact ⟨_, _, ⟨_, _, answered, rfl, rfl⟩, ran⟩

/--
The steps of a tree, and then more steps, succeed exactly if the tree has a value and these steps
succeed with it as the newest value.
-/
theorem runSteps_append_eq_ok_iff
    {resolve : String → StateM σ (Option String)}
    {tree : Tree}
    {rest : List Step}
    {values results : List Value}
    {memory final : σ} :
    (runSteps resolve (tree.steps ++ rest) values).run.run memory = (.ok results, final) ↔
      ∃ value between,
        Evaluates resolve tree memory value between ∧
          (runSteps resolve rest (value :: values)).run.run between = (.ok results, final) := by
  induction tree generalizing rest values memory with
  | number literal | text literal =>
      simp only [Tree.steps, List.singleton_append, runSteps, Step.run, run_bind_eq_ok_iff,
        run_pure_eq_ok_iff]
      constructor
      · rintro ⟨_, _, ⟨rfl, rfl⟩, ran⟩
        exact ⟨_, _, by constructor, ran⟩
      · rintro ⟨_, _, ⟨⟩, ran⟩
        exact ⟨_, _, ⟨rfl, rfl⟩, ran⟩
  | identifier name =>
      exact runSteps_identifier_eq_ok_iff
  | placeholder source =>
      simp only [Tree.steps, List.singleton_append, runSteps, Step.run, run_bind_eq_ok_iff,
        run_lift_eq_ok_iff]
      constructor
      · rintro ⟨_, _, ⟨answer, _, answered, found⟩, ran⟩
        cases answer with
        | some raw =>
            obtain ⟨rfl, rfl⟩ := run_pure_eq_ok_iff.mp found
            exact ⟨_, _, .placeholder answered, ran⟩
        | none =>
            cases found
      · rintro ⟨_, _, evaluates, ran⟩
        cases evaluates with
        | placeholder answered =>
            exact ⟨_, _, ⟨_, _, answered, rfl⟩, ran⟩
  | parenthesized inside inductionHypothesis =>
      rw [Tree.steps, inductionHypothesis]
      constructor
      · rintro ⟨_, _, evaluates, ran⟩
        exact ⟨_, _, .parenthesized evaluates, ran⟩
      · rintro ⟨_, _, evaluates, ran⟩
        cases evaluates with
        | parenthesized evaluates =>
            exact ⟨_, _, evaluates, ran⟩
  | not operand inductionHypothesis =>
      rw [Tree.steps, List.append_assoc, inductionHypothesis]
      simp only [List.singleton_append, runSteps, Step.run, applyUnary, run_bind_eq_ok_iff,
        run_mk_pure_eq_ok_iff, run_pure_eq_ok_iff]
      constructor
      · rintro ⟨_, _, evaluates, _, _, ⟨_, _, ⟨⟨⟩, rfl⟩, rfl, rfl⟩, ran⟩
        exact ⟨_, _, .not evaluates, ran⟩
      · rintro ⟨_, _, evaluates, ran⟩
        cases evaluates with
        | not evaluates =>
            exact ⟨_, _, evaluates, _, _, ⟨_, _, ⟨rfl, rfl⟩, rfl, rfl⟩, ran⟩
  | negative operand inductionHypothesis =>
      rw [Tree.steps, List.append_assoc, inductionHypothesis]
      simp only [List.singleton_append, runSteps, Step.run, run_bind_eq_ok_iff,
        run_mk_pure_eq_ok_iff, run_pure_eq_ok_iff, applyUnary_minus_eq_ok_iff]
      constructor
      · rintro ⟨_, _, evaluates, _, _, ⟨_, _, ⟨⟨number, isNumber, rfl⟩, rfl⟩, rfl, rfl⟩, ran⟩
        exact ⟨_, _, .negative evaluates isNumber, ran⟩
      · rintro ⟨_, _, evaluates, ran⟩
        cases evaluates with
        | negative evaluates isNumber =>
            exact ⟨_, _, evaluates, _, _, ⟨_, _, ⟨⟨_, isNumber, rfl⟩, rfl⟩, rfl, rfl⟩, ran⟩
  | binary operator left right leftHypothesis rightHypothesis =>
      simp only [Tree.steps, List.append_assoc, leftHypothesis, rightHypothesis,
        List.singleton_append, runSteps, Step.run, run_bind_eq_ok_iff, run_mk_pure_eq_ok_iff,
        run_pure_eq_ok_iff]
      constructor
      · rintro ⟨_, _, evaluatesLeft, _, _, evaluatesRight, _, _,
          ⟨_, _, ⟨applied, rfl⟩, rfl, rfl⟩, ran⟩
        exact ⟨_, _, .binary evaluatesLeft evaluatesRight (combines_of_applyBinary applied), ran⟩
      · rintro ⟨_, _, evaluates, ran⟩
        cases evaluates with
        | binary evaluatesLeft evaluatesRight combines =>
            exact ⟨_, _, evaluatesLeft, _, _, evaluatesRight, _, _,
              ⟨_, _, ⟨combines.applyBinary_eq, rfl⟩, rfl, rfl⟩, ran⟩

/-- The steps of a whole tree leave its value and nothing else. -/
theorem run_tree_eq_ok_iff
    {resolve : String → StateM σ (Option String)}
    {tree : Tree}
    {value : Value}
    {memory final : σ} :
    ((⟨tree.steps, none⟩ : Evaluation).run resolve).run.run memory = (.ok value, final) ↔
      Evaluates resolve tree memory value final := by
  have alone := @runSteps_append_eq_ok_iff σ resolve tree [] []
  simp only [List.append_nil, runSteps, run_pure_eq_ok_iff] at alone
  simp only [Evaluation.run, run_bind_eq_ok_iff, alone]
  constructor
  · rintro ⟨_, _, ⟨_, _, evaluates, rfl, rfl⟩, given⟩
    obtain ⟨rfl, rfl⟩ := run_pure_eq_ok_iff.mp given
    exact evaluates
  · intro evaluates
    exact ⟨_, _, ⟨_, _, evaluates, rfl, rfl⟩, rfl⟩

/-- An evaluation that succeeds has no fault. -/
theorem no_fault_of_run_eq_ok
    {resolve : String → StateM σ (Option String)}
    {evaluation : Evaluation}
    {value : Value}
    {memory final : σ}
    (succeeds : (evaluation.run resolve).run.run memory = (.ok value, final)) :
    evaluation.fault = none := by
  simp only [Evaluation.run, run_bind_eq_ok_iff] at succeeds
  obtain ⟨values, between, -, given⟩ := succeeds
  cases isFault : evaluation.fault with
  | none =>
      rfl
  | some fault =>
      rw [isFault] at given
      cases given

/--
An expression has a value exactly if it is made of tokens that have a tree by the grammar, which
is then their only one, and the tree has this value, operand by operand, with what the resolver
remembers handed on from each to the next.
-/
theorem evaluate_eq_ok_iff_evaluates
    (resolve : String → StateM σ (Option String))
    (source : String)
    (memory final : σ)
    (value : Value) :
    (evaluate resolve source).run.run memory = (.ok value, final) ↔
      ∃ tokens tree,
        readTokens source.toList = .ok tokens ∧
          Derives (.chain .or) tokens tree ∧
          (∀ other, Derives (.chain .or) tokens other → other = tree) ∧
          Evaluates resolve tree memory value final := by
  simp only [evaluate, run_bind_eq_ok_iff, run_mk_pure_eq_ok_iff]
  constructor
  · rintro ⟨tokens, _, ⟨read, rfl⟩, succeeds⟩
    obtain ⟨tree, derives⟩ := exists_derives_of_no_fault (no_fault_of_run_eq_ok succeeds)
    rw [evaluationOfTokens_of_derives derives, run_tree_eq_ok_iff] at succeeds
    refine ⟨tokens, tree, read, derives, fun other derivesOther => ?_, succeeds⟩
    exact (derivesOther.unique derives rfl (Phrase.endsBefore_nil _)
      (Phrase.endsBefore_nil _)).2
  · rintro ⟨tokens, tree, read, derives, -, evaluates⟩
    refine ⟨tokens, memory, ⟨read, rfl⟩, ?_⟩
    rw [evaluationOfTokens_of_derives derives, run_tree_eq_ok_iff]
    exact evaluates

end WidgetMarkup.Expression
