import WidgetMarkup.Proofs.Expression.Sequences
import WidgetMarkup.Proofs.Expansion.Restoring
import WidgetMarkup.Proofs.Vocabulary.ParallelScripts

namespace WidgetMarkup

open Markup

/-!
# Parallel expansions

Two expansions that have come equally far, but with macros and paths in which names are spelled in
different ways. Whatever is filled in or evaluated from there on is the same in both, even with
other templates.
-/

variable {isTag : String → Bool}

/-- Whether two expansions have come equally far, but for the spelling of names. -/
structure Progress.Parallel (isTag : String → Bool) (progress progress' : Progress) : Prop where
  macros :
    ∀ name name',
      Text.foldCase name = Text.foldCase name' →
        Option.Rel (MacroRule.Parallel isTag) (progress.macros.find? name)
          (progress'.macros.find? name')
  styles : progress.styles = progress'.styles
  depth : progress.depth = progress'.depth
  charged : progress.charged = progress'.charged
  imports : progress.imports = progress'.imports
  path : progress.path.depth = progress'.path.depth
  journal : progress.journal.SameCalls progress'.journal

namespace Expansion

/-- Whether two parts of expansions end in related ways, but for the spelling of names. -/
abbrev AreParallel
    {α : Type}
    (isTag : String → Bool)
    (values : α → α → Prop)
    (first second : Expansion α) :
    Prop :=
  WidgetMarkup.Parallel LocatedProblem.SameKind (Progress.Parallel isTag) values first second

namespace AreParallel

variable {α : Type} {values : α → α → Prop} {inner inner' : Expansion α}

theorem fail
    {problem problem' : Problem}
    (sameKind : problem.SameKind problem') :
    AreParallel isTag values (Expansion.fail problem) (Expansion.fail problem') :=
  fun _ _ related => .error ⟨sameKind, related.path⟩ related

theorem record
    (level : LogLevel)
    (text text' : String) :
    AreParallel isTag Eq (Expansion.record level text) (Expansion.record level text') :=
  .modify fun _ _ related => { related with journal := related.journal }

/-- Where the path is set back afterwards, only how deep it leads has to be the same. -/
theorem within
    {path path' : TagPath}
    (sameDepth : path.depth = path'.depth)
    (parallel : AreParallel isTag values inner inner') :
    AreParallel isTag values (Expansion.within path inner) (Expansion.within path' inner') := by
  intro before before' related
  have ends := parallel { before with path } { before' with path := path' }
    { related with path := sameDepth }
  unfold Expansion.within
  generalize inner { before with path } = result,
    inner' { before' with path := path' } = result' at ends
  cases ends with
  | ok given between =>
      exact .ok given { between with path := related.path }
  | error given between =>
      exact .error given { between with path := related.path }

theorem calling
    (parallel : AreParallel isTag values inner inner') :
    AreParallel isTag values (Expansion.calling inner) (Expansion.calling inner') := by
  intro before before' related
  have ends := parallel { before with depth := before.depth + 1 }
    { before' with depth := before'.depth + 1 }
    { related with depth := congrArg (· + 1) related.depth }
  unfold Expansion.calling
  generalize inner { before with depth := before.depth + 1 } = result,
    inner' { before' with depth := before'.depth + 1 } = result' at ends
  cases ends with
  | ok given between =>
      exact .ok given { between with depth := congrArg (· - 1) between.depth }
  | error given between =>
      exact .error given { between with depth := congrArg (· - 1) between.depth }

theorem importing
    (template : String)
    (parallel : AreParallel isTag values inner inner') :
    AreParallel isTag values (Expansion.importing template inner)
      (Expansion.importing template inner') := by
  intro before before' related
  have ends := parallel { before with imports := before.imports ++ [template] }
    { before' with imports := before'.imports ++ [template] }
    { related with imports := congrArg (· ++ [template]) related.imports }
  unfold Expansion.importing
  generalize inner { before with imports := before.imports ++ [template] } = result,
    inner' { before' with imports := before'.imports ++ [template] } = result' at ends
  cases ends with
  | ok given between =>
      exact .ok given { between with imports := congrArg List.dropLast between.imports }
  | error given between =>
      exact .error given { between with imports := congrArg List.dropLast between.imports }

theorem onAttribute
    (name name' : String)
    (parallel : AreParallel isTag values inner inner') :
    AreParallel isTag values (Expansion.onAttribute name inner)
      (Expansion.onAttribute name' inner') := by
  intro before before' related
  have ends := parallel before before' related
  unfold Expansion.onAttribute
  generalize inner before = result, inner' before' = result' at ends
  cases ends with
  | ok given between =>
      exact .ok given between
  | error given between =>
      exact .error ⟨given.kind, given.depth⟩ between

theorem attempt
    (parallel : AreParallel isTag Eq inner inner') :
    AreParallel isTag Eq (Expansion.attempt inner) (Expansion.attempt inner') := by
  intro before before' related
  have ends := parallel before before' related
  unfold Expansion.attempt
  generalize inner before = result, inner' before' = result' at ends
  cases ends with
  | ok given between =>
      exact .ok (congrArg some given) between
  | error given between =>
      exact .ok rfl between

/-- What is done with the journal is the same if it does not depend on the log. -/
theorem logged
    {inner : Logged α}
    (isBlind : inner.IsBlind)
    (describe : Problem → Problem) :
    AreParallel isTag Eq (Expansion.logged describe inner) (Expansion.logged describe inner) := by
  intro before before' related
  have ends := isBlind before.journal before'.journal related.journal
  unfold Expansion.logged
  generalize inner before.journal = result, inner before'.journal = result' at ends
  cases ends with
  | ok value between =>
      exact .ok rfl { related with journal := between }
  | error problem between =>
      exact .error ⟨rfl, related.path⟩ { related with journal := between }

/-- A macro that is defined in both is found there under the same names. -/
theorem defining
    (name : String)
    {rule rule' : MacroRule}
    (rules : MacroRule.Parallel isTag rule rule') :
    AreParallel isTag Eq
      (modify fun progress => { progress with macros := progress.macros.insert name rule } :
        Expansion Unit)
      (modify fun progress => { progress with macros := progress.macros.insert name rule' }) := by
  refine .modify fun before before' related => { related with macros := ?_ }
  intro found found' same
  have sameHit : Text.sameName name found' = Text.sameName name found := by
    unfold Text.sameName
    rw [same]
  rw [NameTable.find?_insert, NameTable.find?_insert, sameHit]
  split
  · exact .some rules
  · exact related.macros found found' same

theorem styling
    (tag : String)
    (entry : Attribute) :
    AreParallel isTag Eq
      (modify fun progress => { progress with styles := progress.styles.add tag entry } :
        Expansion Unit)
      (modify fun progress => { progress with styles := progress.styles.add tag entry }) :=
  .modify fun _ _ related => { related with styles := congrArg (·.add tag entry) related.styles }

theorem charge
    (limit : Nat) :
    AreParallel isTag Eq (Expansion.charge limit) (Expansion.charge limit) := by
  refine .bind_eq (.modify fun _ _ related => ?_) fun _ => .get_bind fun _ _ related => ?_
  · exact { related with charged := congrArg (· + 1) related.charged }
  · rw [related.charged]
    split
    · exact AreParallel.fail rfl
    · exact .pure rfl

end AreParallel

end Expansion

open Expansion (AreParallel)

namespace Expression

theorem isSequential_parallel :
    @IsSequential Expansion _ fun α (first second : Expansion α) =>
      AreParallel isTag Eq first second where
  pure _ := .pure rfl
  bind firsts nexts := firsts.bind_eq nexts

/-- Evaluating an expression is the same in both expansions if looking up names is. -/
theorem parallel_evaluate
    {resolve resolve' : String → Expansion (Option String)}
    (resolveParallel : ∀ name, AreParallel isTag Eq (resolve name) (resolve' name))
    (source : String) :
    AreParallel isTag Eq (evaluate resolve source).run (evaluate resolve' source).run :=
  isSequential_parallel.evaluate resolve resolve' resolveParallel source

end Expression

namespace Interpreter

/-- The interpreter with other templates. -/
def withTemplates (interpreter : Interpreter) (templates : TextSource) : Interpreter :=
  { interpreter with templates }

-- Values are filled in without a look at templates, so those may differ from here on.
variable {interpreter : Interpreter} {templates : TextSource}

theorem parallel_evaluateWith
    {placeholder placeholder' : String → Expansion (Option String)}
    (placeholderParallel : ∀ name, AreParallel isTag Eq (placeholder name) (placeholder' name))
    (scope : Scope)
    (source : String) :
    AreParallel isTag Eq (interpreter.evaluateWith scope placeholder source)
      ((interpreter.withTemplates templates).evaluateWith scope placeholder' source) := by
  refine (Expression.parallel_evaluate (fun name => ?_) source).bind_eq fun outcome => ?_
  · split
    · exact placeholderParallel name
    · exact .pure rfl
  · cases outcome with
    | ok value =>
        exact .pure rfl
    | error error =>
        exact AreParallel.fail rfl

theorem parallel_fillIn
    (scope : Scope)
    (segment : Segment) :
    AreParallel isTag Eq (interpreter.fillIn scope segment)
      ((interpreter.withTemplates templates).fillIn scope segment) := by
  match segment with
  | .literal text =>
      exact .pure rfl
  | .variable name =>
      change AreParallel isTag Eq (interpreter.fillIn scope (.variable name))
        (interpreter.fillIn scope (.variable name))
      rw [fillIn]
      split
      · exact .pure rfl
      · exact .fail rfl
  | .translation key =>
      change AreParallel isTag Eq (interpreter.fillIn scope (.translation key))
        (interpreter.fillIn scope (.translation key))
      rw [fillIn]
      split
      · exact .pure rfl
      · exact .fail rfl
  | .action reference =>
      refine .bind_eq (AreParallel.logged ?_ (actionFailure reference)) fun answer => .pure rfl
      exact interpreter.actions.isBlind_invoke reference
  | .expression source =>
      exact (parallel_evaluateWith (fun _ => .pure rfl) scope source).bind_eq fun value =>
        .pure rfl

theorem parallel_fillInAll
    (scope : Scope)
    (segments : List Segment) :
    AreParallel isTag Eq (interpreter.fillInAll scope segments)
      ((interpreter.withTemplates templates).fillInAll scope segments) := by
  induction segments with
  | nil =>
      exact .pure rfl
  | cons segment rest inductionHypothesis =>
      exact (parallel_fillIn scope segment).bind_eq fun first =>
        inductionHypothesis.bind_eq fun others => .pure rfl

/-- A value is filled in in the same way in both expansions. -/
theorem parallel_interpolate
    (scope : Scope)
    (raw : String) :
    AreParallel isTag Eq (interpreter.interpolate scope raw)
      ((interpreter.withTemplates templates).interpolate scope raw) := by
  unfold interpolate
  split
  · split
    · exact parallel_fillInAll scope _
    · exact .fail rfl
  · exact .pure rfl

/-- An expression is evaluated in the same way in both expansions. -/
theorem parallel_evaluate
    (scope : Scope)
    (source : String) :
    AreParallel isTag Eq (interpreter.evaluate scope source)
      ((interpreter.withTemplates templates).evaluate scope source) :=
  parallel_evaluateWith (fun placeholder => (parallel_interpolate scope placeholder).attempt)
    scope source

/-- Attributes keep the spelling of their names when their values are filled in. -/
theorem parallel_interpolateAttributes
    {free : Bool}
    (scope : Scope)
    {entries entries' : List Attribute}
    (respelled : Attribute.AreRespellings free entries entries') :
    AreParallel isTag (Attribute.AreRespellings free)
      (interpreter.interpolateAttributes scope entries)
      ((interpreter.withTemplates templates).interpolateAttributes scope entries') := by
  induction respelled with
  | nil =>
      exact .pure .nil
  | cons first _ inductionHypothesis =>
      rw [interpolateAttributes, interpolateAttributes, first.value]
      refine ((parallel_interpolate scope _).onAttribute _ _).bind_eq fun value => ?_
      exact inductionHypothesis.bind fun _ _ others => .pure (.cons ⟨rfl, first.name⟩ others)

end Interpreter

end WidgetMarkup
