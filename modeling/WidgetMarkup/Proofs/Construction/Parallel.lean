import WidgetMarkup.Proofs.Construction.Alike
import WidgetMarkup.Run

namespace WidgetMarkup

/-!
# Parallel runs

Two parts of runs are parallel if, begun in related states, they both succeed or both fail, with
related values or problems, and leave related states behind. What is put together of parallel parts
is parallel.
-/

section Relation

variable
  {ε σ α β : Type}
  {errors : ε → ε → Prop}
  {states : σ → σ → Prop}
  {values : α → α → Prop}
  {results : β → β → Prop}

/-- Whether two results are both values or both problems, related as told, as are the states
behind them. -/
inductive ParallelResults
    (errors : ε → ε → Prop)
    (states : σ → σ → Prop)
    (values : α → α → Prop) :
    EStateM.Result ε σ α → EStateM.Result ε σ α → Prop where
  | ok
      {value value' : α}
      {after after' : σ}
      (given : values value value')
      (related : states after after') :
      ParallelResults errors states values (.ok value after) (.ok value' after')
  | error
      {problem problem' : ε}
      {after after' : σ}
      (given : errors problem problem')
      (related : states after after') :
      ParallelResults errors states values (.error problem after) (.error problem' after')

/-- Whether two parts of runs, begun in related states, end in related ways. -/
def Parallel
    (errors : ε → ε → Prop)
    (states : σ → σ → Prop)
    (values : α → α → Prop)
    (first second : EStateM ε σ α) :
    Prop :=
  ∀ before before',
    states before before' →
      ParallelResults errors states values (first before) (second before')

namespace Parallel

variable {first second : EStateM ε σ α} {next next' : α → EStateM ε σ β}

theorem pure
    {value value' : α}
    (given : values value value') :
    Parallel errors states values (Pure.pure value) (Pure.pure value') :=
  fun _ _ related => .ok given related

theorem throw
    {problem problem' : ε}
    (given : errors problem problem') :
    Parallel errors states values (MonadExcept.throw problem : EStateM ε σ α)
      (MonadExcept.throw problem') :=
  fun _ _ related => .error given related

theorem bind
    (firsts : Parallel errors states values first second)
    (nexts :
      ∀ value value', values value value' →
        Parallel errors states results (next value) (next' value')) :
    Parallel errors states results (first >>= next) (second >>= next') := by
  intro before before' related
  have ends := firsts before before' related
  simp only [Bind.bind, EStateM.bind]
  generalize first before = result, second before' = result' at ends
  cases ends with
  | ok given between =>
      exact nexts _ _ given _ _ between
  | error given between =>
      exact .error given between

/-- What follows a part that gives the same value in both runs is parallel for that value. -/
theorem bind_eq
    (firsts : Parallel errors states Eq first second)
    (nexts : ∀ value, Parallel errors states results (next value) (next' value)) :
    Parallel errors states results (first >>= next) (second >>= next') :=
  firsts.bind fun value _ same => same ▸ nexts value

/-- What looks at the state first may look at related states. -/
theorem get_bind
    {next next' : σ → EStateM ε σ α}
    (nexts :
      ∀ before before', states before before' →
        Parallel errors states values (next before) (next' before')) :
    Parallel errors states values (get >>= next) (get >>= next') :=
  fun before before' related => nexts before before' related before before' related

theorem modify
    {change change' : σ → σ}
    (keeps : ∀ before before', states before before' → states (change before) (change' before')) :
    Parallel errors states Eq (modify change : EStateM ε σ PUnit) (modify change') :=
  fun before before' related => .ok rfl (keeps before before' related)

/-- Where the first part succeeds, so does the second. -/
theorem of_ok
    (parallel : Parallel errors states values first second)
    {before before' after : σ}
    {value : α}
    (related : states before before')
    (ran : first before = .ok value after) :
    ∃ value' after',
      second before' = .ok value' after' ∧ values value value' ∧ states after after' := by
  have ends := parallel before before' related
  rw [ran] at ends
  generalize second before' = result' at ends
  cases ends with
  | ok given between =>
      exact ⟨_, _, rfl, given, between⟩

/-- Where the first part fails, so does the second. -/
theorem of_error
    (parallel : Parallel errors states values first second)
    {before before' after : σ}
    {problem : ε}
    (related : states before before')
    (ran : first before = .error problem after) :
    ∃ problem' after',
      second before' = .error problem' after' ∧ errors problem problem' ∧
        states after after' := by
  have ends := parallel before before' related
  rw [ran] at ends
  generalize second before' = result' at ends
  cases ends with
  | error given between =>
      exact ⟨_, _, rfl, given, between⟩

end Parallel

end Relation

/-- The kinds of problems. -/
inductive ProblemKind where
  | markupFault
  | unknownTag
  | unknownMacro
  | unknownAttribute
  | unsupportedAttribute
  | badValue
  | construction
  | interpolation
  | tooDeep
  | tooLarge
  | importCycle
  | templateNotFound
  | unknownAction
  | thrown
deriving Repr, DecidableEq

/-- The kind of a problem. -/
def Problem.kind : Problem → ProblemKind
  | .markupFault _ => .markupFault
  | .unknownTag _ => .unknownTag
  | .unknownMacro _ => .unknownMacro
  | .unknownAttribute _ => .unknownAttribute
  | .unsupportedAttribute _ _ => .unsupportedAttribute
  | .badValue _ => .badValue
  | .construction _ => .construction
  | .interpolation _ _ => .interpolation
  | .tooDeep _ => .tooDeep
  | .tooLarge _ => .tooLarge
  | .importCycle _ => .importCycle
  | .templateNotFound _ => .templateNotFound
  | .unknownAction _ => .unknownAction
  | .thrown _ => .thrown

/-- How deep a path leads. -/
def TagPath.depth (path : TagPath) : Nat :=
  path.segments.length

/-- What stands at paths that lead equally deep contains what lies equally deep. -/
theorem TagPath.depth_child_congr
    {path path' : TagPath}
    (sameDepth : path.depth = path'.depth)
    (name name' : String)
    (id id' : Option String) :
    (path.child name id).depth = (path'.child name' id').depth := by
  unfold depth at sameDepth
  cases id <;> cases id' <;> simp [child, depth, sameDepth]

/-- Whether two problems are of the same kind. -/
def Problem.SameKind (problem problem' : Problem) : Prop :=
  problem.kind = problem'.kind

/-- Whether two problems are of the same kind and lie equally deep. -/
structure LocatedProblem.SameKind (problem problem' : LocatedProblem) : Prop where
  kind : problem.problem.SameKind problem'.problem
  depth : problem.path.depth = problem'.path.depth

/-- Whether two runs both succeed, with related values, or both fail, with problems of one kind that
lie equally deep; and have the same calls of actions either way. -/
inductive Run.Parallel {α : Type} (values : α → α → Prop) : Run α → Run α → Prop where
  | ok
      {value value' : α}
      {journal journal' : Journal}
      (given : values value value')
      (sameCalls : journal.SameCalls journal') :
      Parallel values ⟨.ok value, journal⟩ ⟨.ok value', journal'⟩
  | error
      {problem problem' : LocatedProblem}
      {journal journal' : Journal}
      (sameKind : problem.SameKind problem')
      (sameCalls : journal.SameCalls journal') :
      Parallel values ⟨.error problem, journal⟩ ⟨.error problem', journal'⟩

/-- Whether two parts of runs with the journal end in the same way, but for the words of their
problems. -/
abbrev Logged.Parallel {α : Type} (values : α → α → Prop) (first second : Logged α) : Prop :=
  WidgetMarkup.Parallel Problem.SameKind Journal.SameCalls values first second

/-- What does not depend on the log is parallel to itself. -/
theorem Logged.IsBlind.parallel
    {α : Type}
    {inner : Logged α}
    (isBlind : inner.IsBlind) :
    Logged.Parallel Eq inner inner := by
  intro journal journal' related
  have ends := isBlind journal journal' related
  generalize inner journal = result, inner journal' = result' at ends
  cases ends with
  | ok value between =>
      exact .ok rfl between
  | error problem between =>
      exact .error rfl between

end WidgetMarkup
