import WidgetMarkup.Proofs.Expression.Grouping
import WidgetMarkup.Proofs.Expression.Meaning
import WidgetMarkup.Expansion.Interpolation

namespace WidgetMarkup

/-!
# What expressions look up

An expression looks up the identifiers and placeholders among its tokens, in their order, and
nothing else. So it has the same value for whoever answers these alike; and an expression without
any closing brace, as it stands in a placeholder, never asks for a placeholder.
-/

namespace Expression

/-- The name or source that a token is looked up by. -/
def Token.name? : Token → Option String
  | .identifier name => some name
  | .placeholder source => some source
  | .number _ | .text _ | .operator _ | .openParenthesis | .closeParenthesis => none

/-- The name or source that a step looks up. -/
def Step.name? : Step → Option String
  | .identifier name => some name
  | .placeholder source => some source
  | .number _ | .text _ | .unary _ | .binary _ => none

/-- What tokens are looked up by, in their order. -/
def namesOf (tokens : List Token) : List String :=
  tokens.filterMap Token.name?

/-- What an evaluation looks up, in order. -/
def Evaluation.names (evaluation : Evaluation) : List String :=
  evaluation.steps.filterMap Step.name?

/-- Operators look up nothing. -/
theorem names_settle
    (level : Nat)
    (waiting : List Waiting) :
    (settle level waiting).1.filterMap Step.name? = [] := by
  fun_induction settle level waiting with
  | case1 operator rest steps outer isSettled inductionHypothesis
  | case2 operator own rest bound steps outer isSettled inductionHypothesis =>
      rw [isSettled] at inductionHypothesis
      exact inductionHypothesis
  | case3 | case4 =>
      rfl

/-- An evaluation of steps that look up nothing looks up nothing. -/
theorem Evaluation.names_prefix_of_nothing
    {steps : List Step}
    (nothing : steps.filterMap Step.name? = [])
    (fault : Option ExpressionError)
    (names : List String) :
    Evaluation.names ⟨steps, fault⟩ <+: names := by
  rw [Evaluation.names, nothing]
  exact List.nil_prefix

/-- What some steps look up comes before what the others do. -/
theorem Evaluation.names_after
    (first : List Step)
    (evaluation : Evaluation) :
    (evaluation.after first).names = first.filterMap Step.name? ++ evaluation.names :=
  List.filterMap_append

mutual

/-- What an evaluation looks up is among its tokens, in their order. -/
theorem names_operandFirst :
    ∀ tokens waiting, (operandFirst waiting tokens).names <+: namesOf tokens
  | [], waiting => List.nil_prefix
  | .number value :: rest, waiting => by
      rw [operandFirst, Evaluation.names_after]
      exact names_operatorFirst rest waiting
  | .text value :: rest, waiting => by
      rw [operandFirst, Evaluation.names_after]
      exact names_operatorFirst rest waiting
  | .identifier name :: rest, waiting => by
      rw [operandFirst, Evaluation.names_after]
      exact (List.prefix_cons_inj name).2 (names_operatorFirst rest waiting)
  | .placeholder source :: rest, waiting => by
      rw [operandFirst, Evaluation.names_after]
      exact (List.prefix_cons_inj source).2 (names_operatorFirst rest waiting)
  | .openParenthesis :: rest, waiting => by
      rw [operandFirst]
      exact names_operandFirst rest _
  | .closeParenthesis :: rest, waiting => List.nil_prefix
  | .operator operator :: rest, waiting => by
      rw [operandFirst]
      split
      · exact names_operandFirst rest _
      · exact List.nil_prefix

theorem names_operatorFirst :
    ∀ tokens waiting, (operatorFirst waiting tokens).names <+: namesOf tokens
  | [], waiting => by
      rw [operatorFirst]
      have settled := names_settle 0 waiting
      split
      all_goals
        rename_i isSettled
        rw [isSettled] at settled
        exact Evaluation.names_prefix_of_nothing settled _ _
  | .closeParenthesis :: rest, waiting => by
      rw [operatorFirst]
      have settled := names_settle 0 waiting
      split
      · rename_i steps outer isSettled
        rw [isSettled] at settled
        rw [Evaluation.names_after, settled]
        exact names_operatorFirst rest outer
      · rename_i isSettled
        rw [isSettled] at settled
        exact Evaluation.names_prefix_of_nothing settled _ _
  | .operator operator :: rest, waiting => by
      rw [operatorFirst]
      split
      · rw [Evaluation.names_after, names_settle]
        exact names_operandFirst rest _
      · exact Evaluation.names_prefix_of_nothing (names_settle 0 waiting) _ _
  | .number _ :: _, waiting | .text _ :: _, waiting | .identifier _ :: _, waiting
  | .placeholder _ :: _, waiting | .openParenthesis :: _, waiting =>
      Evaluation.names_prefix_of_nothing (names_settle 0 waiting) _ _

end

/-- Steps do the same for whoever answers alike what they look up. -/
theorem runSteps_congr
    {m : Type → Type}
    [Monad m]
    {resolve resolve' : String → m (Option String)}
    (steps : List Step)
    (alike : ∀ name ∈ steps.filterMap Step.name?, resolve name = resolve' name)
    (values : List Value) :
    runSteps resolve steps values = runSteps resolve' steps values := by
  induction steps generalizing values with
  | nil =>
      rfl
  | cons step rest inductionHypothesis =>
      have first : step.run resolve values = step.run resolve' values := by
        cases step with
        | identifier name =>
            rw [run_identifier, run_identifier, alike name (List.mem_cons_self ..)]
        | placeholder source =>
            rw [Step.run, Step.run, alike source (List.mem_cons_self ..)]
        | number | text | unary | binary =>
            rfl
      have others (name : String) (member : name ∈ rest.filterMap Step.name?) :
          resolve name = resolve' name := by
        refine alike name ?_
        rw [List.filterMap_cons]
        split
        · exact member
        · exact .tail _ member
      rw [runSteps, runSteps, first]
      exact bind_congr fun next => inductionHypothesis others next

/-- An expression has the same value for whoever answers alike what its tokens are looked up by. -/
theorem evaluate_congr
    {m : Type → Type}
    [Monad m]
    [LawfulMonad m]
    {resolve resolve' : String → m (Option String)}
    {source : String}
    (alike :
      ∀ tokens, readTokens source.toList = .ok tokens →
        ∀ name ∈ namesOf tokens, resolve name = resolve' name) :
    evaluate resolve source = evaluate resolve' source := by
  unfold evaluate Evaluation.run
  apply ExceptT.ext
  simp only [ExceptT.run_bind, ExceptT.run_mk, pure_bind]
  cases read : readTokens source.toList with
  | error error =>
      rfl
  | ok tokens =>
      have names := (names_operandFirst tokens []).subset
      have steps := runSteps_congr (evaluationOfTokens tokens).steps fun name member =>
        alike tokens read name (names member)
      simp only [steps]

/-- What stands after an ending comes from what there was, and so does the ending. -/
theorem mem_of_enclosed?
    {ending : Char}
    {characters inside after : List Char}
    (found : enclosed? ending characters = some (inside, after)) :
    ending ∈ characters ∧ after.Sublist characters := by
  unfold enclosed? at found
  have dropped := List.dropWhile_sublist (· != ending) (l := characters)
  split at found
  · cases found
  · rename_i head rest isDropped
    cases found
    have isEnding := List.head?_dropWhile_not (· != ending) characters
    rw [isDropped] at dropped isEnding
    have same : head = ending := by simpa using isEnding
    exact ⟨same ▸ dropped.subset (List.mem_cons_self ..),
      (List.sublist_cons_self head after).trans dropped⟩

/-- A word comes from the characters after its first, and if it is a placeholder, a closing brace
is among them. -/
theorem sublist_of_readWord
    {first : Char}
    {token : Token}
    {rest after : List Char}
    (read : readWord first rest = .ok (token, after)) :
    after.Sublist rest ∧
      ∀ name, token.name? = some name → Interpreter.isPlaceholder name = true →
        Text.closeBrace ∈ rest := by
  unfold readWord at read
  split at read
  · cases read
    exact ⟨.refl _, nofun⟩
  split at read
  · cases read
    exact ⟨.refl _, nofun⟩
  split at read
  · split at read
    · rename_i found
      cases read
      exact ⟨(mem_of_enclosed? found).2, nofun⟩
    · cases read
  split at read
  · split at read
    · rename_i found
      cases read
      exact ⟨(mem_of_enclosed? found).2, fun _ _ _ => (mem_of_enclosed? found).1⟩
    · cases read
  split at read
  · simp only at read
    split at read
    · cases read
      exact ⟨List.dropWhile_sublist _, nofun⟩
    · cases read
  split at read
  · rename_i noBrace _ _
    cases read
    refine ⟨List.dropWhile_sublist _, ?_⟩
    rintro _ ⟨⟩ isPlaceholder
    simp only [Interpreter.isPlaceholder, String.toList_ofList, List.head?_cons, Option.some.injEq,
      decide_eq_true_eq] at isPlaceholder
    exact absurd isPlaceholder noBrace
  · split at read
    · cases read
      exact ⟨List.drop_sublist _ _, nofun⟩
    · cases read

/-- Only an expression with a closing brace has tokens that are looked up as placeholders. -/
theorem closeBrace_mem_of_readTokens
    {characters : List Char}
    {tokens : List Token}
    {name : String}
    (read : readTokens characters = .ok tokens)
    (member : name ∈ namesOf tokens)
    (isPlaceholder : Interpreter.isPlaceholder name = true) :
    Text.closeBrace ∈ characters := by
  fun_induction readTokens characters generalizing tokens with
  | case1 =>
      cases read
      cases member
  | case2 first rest blank inductionHypothesis =>
      exact .tail _ (inductionHypothesis read member)
  | case3 | case4 =>
      cases read
  | case5 first rest _ token after isWord others isRead inductionHypothesis =>
      cases read
      obtain ⟨isRest, ofToken⟩ := sublist_of_readWord isWord
      rw [namesOf, List.filterMap_cons] at member
      split at member
      · exact .tail _ (isRest.subset (inductionHypothesis isRead member))
      · rename_i isName
        rcases List.mem_cons.1 member with rfl | member
        · exact .tail _ (ofToken _ isName isPlaceholder)
        · exact .tail _ (isRest.subset (inductionHypothesis isRead member))

end Expression

/-- An expression without any closing brace has its value whatever placeholders stand for, so it has
the same one inside a placeholder as in an attribute. -/
theorem Interpreter.evaluateWith_eq_evaluate
    (interpreter : Interpreter)
    (scope : Scope)
    {source : String}
    (noBrace : Text.closeBrace ∉ source.toList) :
    interpreter.evaluateWith scope (fun _ => pure none) source =
      interpreter.evaluate scope source := by
  unfold evaluate evaluateWith
  refine congrArg (fun evaluation => ExceptT.run evaluation >>= _) (Expression.evaluate_congr ?_)
  intro tokens read name member
  have notPlaceholder : ¬isPlaceholder name = true := fun isPlaceholder =>
    noBrace (Expression.closeBrace_mem_of_readTokens read member isPlaceholder)
  rw [if_neg notPlaceholder, if_neg notPlaceholder]

end WidgetMarkup
