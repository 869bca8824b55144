import WidgetMarkup.Proofs.Expansion.Wrappers
import WidgetMarkup.Proofs.Expansion.WrittenMacros
import WidgetMarkup.Proofs.Expression.ReadBack

namespace WidgetMarkup

open Markup
open Expansion (Outcome bind_apply)
open Expression (Value)

/-!
# Conditions that are calculated first

A name can be bound to the value of an expression, and a condition can ask for the name in place of
the expression. It asks for the text of the value then, so it comes to the same children unless that
text is misread.
-/

namespace Markup.Node

/-- Whether a node is a call that binds a name to the value of an expression. -/
inductive IsCalculation (name expression : String) : Node → Prop where
  | intro
      {called text : String}
      {inside : List Node}
      {position : Position}
      (named : Declaration.lists ["calculate", "calculation"] called = true) :
      IsCalculation name expression ⟨called, true, [⟨name, expression⟩], inside, text, position⟩

/-- Whether a node is a call that chooses among children by the value of an expression. -/
inductive IsCondition (expression : String) (children : List Node) : Node → Prop where
  | intro
      {called text : String}
      {position : Position}
      (named : Declaration.lists ["if", "test", "check"] called = true) :
      IsCondition expression children
        ⟨called, true, [⟨"test", expression⟩], children, text, position⟩

end Markup.Node

/-- The children of a condition that are left if it holds, or else if it does not. -/
def StandardMacro.branch (children : List Node) (holds : Bool) : List Node :=
  if holds then (splitAtElse children).1 else (splitAtElse children).2

/-- The outcome of a macro call, given that of its script. -/
def Expansion.Outcome.returnedTo (progress : Progress) : Outcome → Outcome :=
  Outcome.adapt id fun after => { after with depth := after.depth - 1, path := progress.path }

namespace Interpreter

variable {interpreter : Interpreter} {scope : Scope} {progress : Progress}

/-- A macro call as its script sees it if the attributes are not filled in. -/
def writtenCall (interpreter : Interpreter) (progress : Progress) (node : Node) : MacroCall :=
  ⟨node.name, node.attributes, node.children, node.text,
    interpreter.macroPath progress.path node.name⟩

/-- The state in which the script of a macro call begins, once the call is paid for. -/
def entered (interpreter : Interpreter) (progress : Progress) (node : Node) : Progress :=
  let path := interpreter.macroPath progress.path node.name
  { progress with
    path
    depth := progress.depth + 1
    charged := progress.charged + 1
    journal := progress.journal.record .debug ("expanding macro at " ++ path.render) }

/-- Whether nodes come to the expansion of other nodes as a part of one macro call. -/
def GoesOnWith
    (interpreter : Interpreter)
    (nodes : List Node)
    (scope : Scope)
    (progress : Progress)
    (inside : List Node)
    (inner : Scope)
    (between : Progress) :
    Prop :=
  interpreter.expandNodes nodes scope progress =
    Outcome.returnedTo progress (interpreter.expandNodes inside inner between)

/-- A macro call whose attributes are not filled in is its script, on a path of its own and one
level deeper. -/
theorem expandNodes_of_asWritten
    (standard : interpreter.vocabulary = .standard)
    {names : List String}
    {rule : MacroRule}
    (listed : (names, rule) ∈ StandardMacro.all)
    (asWritten : rule.interpolates = false)
    {node : Node}
    (isMacro : node.isMacro = true)
    (named : Declaration.lists names node.name = true)
    (unshadowed : progress.macros.find? node.name = none)
    (left : progress.charged < interpreter.settings.maxExpansions)
    (shallow : progress.depth < interpreter.settings.maxDepth)
    (scope : Scope) :
    interpreter.expandNodes [node] scope progress =
      Outcome.returnedTo progress
        (interpreter.runScript interpreter.expandNodes
          (rule.script interpreter.sources (interpreter.writtenCall progress node) scope)
          (interpreter.entered progress node)) := by
  let paid : Progress := { progress with charged := progress.charged + 1 }
  let path := interpreter.macroPath progress.path node.name
  have isCall : interpreter.isMacroCall paid node = true := by
    rw [isMacroCall, isMacro, Bool.true_or]
  have found : interpreter.findMacro? paid node.name = some rule := by
    rw [findMacro?, unshadowed, standard]
    exact Vocabulary.macroRule?_standard_of_mem listed named
  have prepared :
      interpreter.prepareCall rule node scope path { paid with path } =
        .ok (interpreter.writtenCall progress node)
          { paid with
            path
            journal := progress.journal.record .debug ("expanding macro at " ++ path.render) } := by
    rw [prepareCall, asWritten]
    rfl
  obtain ⟨_, body⟩ := interpreter.exists_expands_perform 1
    (.script rule (rule.script interpreter.sources (interpreter.writtenCall progress node) scope))
    (interpreter.entered progress node)
  rw [expandNodes_singleton, bind_apply, charge_of_left left]
  exact (Expands.called isCall found shallow prepared body).perform_eq

/-- A condition with one attribute evaluates that and goes on with one of its branches. -/
theorem runScript_condition
    {call : MacroCall}
    {given expression : String}
    (single : call.attributes = [⟨given, expression⟩]) :
    interpreter.runScript interpreter.expandNodes
        (StandardMacro.condition.script interpreter.sources call scope) =
      interpreter.evaluate scope expression >>= fun value =>
        interpreter.expandNodes (StandardMacro.branch call.children value.isTruthy) scope := by
  have asked : StandardMacro.attributeOrFirst? call "test" = some expression := by
    rw [StandardMacro.attributeOrFirst?, MacroCall.attribute?, single, Attribute.lookup?,
      List.find?_singleton]
    split <;> rename_i found
    · split at found
      · exact found.symm
      · cases found
    · rfl
  simp only [StandardMacro.condition, asked, runScript, StandardMacro.branch, Prod.mk.eta,
    bind_pure]

/-- A calculation with one attribute binds the text of its value. -/
theorem runScript_calculate
    {call : MacroCall}
    {name expression : String}
    (single : call.attributes = [⟨name, expression⟩]) :
    interpreter.runScript interpreter.expandNodes
        (StandardMacro.calculate.script interpreter.sources call scope) =
      interpreter.evaluate scope expression >>= fun value =>
        pure ([], scope.bind name value.render) := by
  simp only [StandardMacro.calculate, single, StandardMacro.calculateAll, runScript]

/-- A bound name has the value that its text is read as. -/
theorem evaluate_bound
    {name : String}
    (valid : Expression.isIdentifier name = true)
    (notLiteral : Expression.literal? name = none)
    (scope : Scope)
    (text : String) :
    interpreter.evaluate (scope.bind name text) name = pure (.ofBinding text) := by
  have notPlaceholder : ¬isPlaceholder name = true := by
    obtain ⟨first, rest, shape, isStart, -⟩ := Expression.exists_toList_of_isIdentifier valid
    have notBrace : first ≠ Text.openBrace :=
      Expression.ne_of_isIdentifierStart isStart (by decide)
    simp [isPlaceholder, shape, notBrace]
  have isBound : interpreter.lookup? (scope.bind name text) name = some text := by
    simp [lookup?, Sources.lookup?, Scope.get?_bind]
  unfold evaluate evaluateWith
  simp only [Expression.evaluate_of_isIdentifier valid notLiteral]
  rw [if_neg notPlaceholder, isBound, map_pure, pure_bind]
  rfl

/-- An expression has the same value wherever the same calls have been made before, and only the
journal changes. -/
theorem evaluate_elsewhere
    {expression : String}
    {value : Value}
    {after progress' : Progress}
    (evaluated : interpreter.evaluate scope expression progress = .ok value after)
    (effects : progress.SameEffects progress') :
    ∃ journal,
      interpreter.evaluate scope expression progress' = .ok value { progress' with journal } ∧
        after.SameEffects { progress' with journal } := by
  have results :=
    (@isUniform_evaluate interpreter scope expression).results False effects.calls False.elim
  rw [evaluated] at results
  generalize ran : interpreter.evaluate scope expression progress' = result at results
  cases results with
  | ok given between =>
      obtain ⟨⟨_, rfl⟩, ⟨journal, rfl⟩, calls, -⟩ := between
      cases given
      exact ⟨journal, rfl, effects.macros, effects.styles, calls⟩

/-- Entering a macro call has no effect yet. -/
theorem sameEffects_entered
    (progress : Progress)
    (node : Node) :
    progress.SameEffects (interpreter.entered progress node) :=
  ⟨fun _ => rfl, rfl, rfl⟩

section Places

variable {name expression : String} {children : List Node} {node : Node} {value : Value}
  {between : Progress}

/-- A condition goes on with the branch that the value of its expression chooses. -/
theorem goesOnWith_of_isCondition
    (standard : interpreter.vocabulary = .standard)
    (isCondition : node.IsCondition expression children)
    (unshadowed : progress.macros.find? node.name = none)
    (left : progress.charged < interpreter.settings.maxExpansions)
    (shallow : progress.depth < interpreter.settings.maxDepth)
    (evaluated :
      interpreter.evaluate scope expression (interpreter.entered progress node) =
        .ok value between) :
    interpreter.GoesOnWith [node] scope progress
      (StandardMacro.branch children value.isTruthy) scope between := by
  cases isCondition with
  | intro named =>
      have listed : (["if", "test", "check"], StandardMacro.condition) ∈ StandardMacro.all := by
        simp [StandardMacro.all]
      rw [GoesOnWith,
        expandNodes_of_asWritten standard listed rfl rfl named unshadowed left shallow,
        runScript_condition rfl, bind_apply, evaluated]
      rfl

/-- A calculation is left out, and the name is bound after it. -/
theorem expandNodes_of_isCalculation
    (standard : interpreter.vocabulary = .standard)
    (isCalculation : node.IsCalculation name expression)
    (unshadowed : progress.macros.find? node.name = none)
    (left : progress.charged < interpreter.settings.maxExpansions)
    (shallow : progress.depth < interpreter.settings.maxDepth)
    (evaluated :
      interpreter.evaluate scope expression (interpreter.entered progress node) =
        .ok value between) :
    interpreter.expandNodes [node] scope progress =
      .ok ([], scope.bind name value.render)
        { between with depth := between.depth - 1, path := progress.path } := by
  cases isCalculation with
  | intro named =>
      have listed :
          (["calculate", "calculation"], StandardMacro.calculate) ∈ StandardMacro.all := by
        simp [StandardMacro.all]
      rw [expandNodes_of_asWritten standard listed rfl rfl named unshadowed left shallow,
        runScript_calculate rfl, bind_apply, evaluated]
      rfl

/-- Behind a calculation, a condition on the name goes on with the branch that the text chooses. -/
theorem goesOnWith_of_isCalculation
    (standard : interpreter.vocabulary = .standard)
    (valid : Expression.isIdentifier name = true)
    (notLiteral : Expression.literal? name = none)
    {calculation byName : Node}
    (isCalculation : calculation.IsCalculation name expression)
    (isByName : byName.IsCondition name children)
    (unshadowed : progress.macros.find? calculation.name = none)
    (unshadowedByName : progress.macros.find? byName.name = none)
    (left : progress.charged + 1 < interpreter.settings.maxExpansions)
    (shallow : progress.depth < interpreter.settings.maxDepth)
    {journal : Journal}
    (evaluated :
      interpreter.evaluate scope expression (interpreter.entered progress calculation) =
        .ok value { interpreter.entered progress calculation with journal }) :
    interpreter.GoesOnWith [calculation, byName] scope progress
      (StandardMacro.branch children (Value.ofBinding value.render).isTruthy)
      (scope.bind name value.render)
      (interpreter.entered { progress with charged := progress.charged + 1, journal } byName) := by
  have bound := expandNodes_of_isCalculation standard isCalculation unshadowed
    (Nat.lt_of_succ_lt left) shallow evaluated
  let behind : Progress := { progress with charged := progress.charged + 1, journal }
  have byBound :
      interpreter.GoesOnWith [byName] (scope.bind name value.render) behind
        (StandardMacro.branch children (Value.ofBinding value.render).isTruthy)
        (scope.bind name value.render) (interpreter.entered behind byName) :=
    goesOnWith_of_isCondition standard isByName unshadowedByName left shallow
      (congrFun (evaluate_bound valid notLiteral scope value.render) _)
  have unchanged (outcome : Outcome) :
      outcome.adapt (fun others => ([] ++ others.1, others.2)) id = outcome := by
    cases outcome <;> rfl
  rw [GoesOnWith, ← List.singleton_append, expandNodes_append_of_ok bound]
  exact (unchanged _).trans byBound

end Places

/--
A calculated value keeps its truth unless it is misread. A name that is bound to the text of a value
is evaluated to what the text is read as, which counts for as much as the value itself does if the
value is not misread; a value that is misread counts as true and its text does not. So a calculation
and a condition on the name go on with the children that a condition on the expression goes on with,
or, where the value is misread, with those behind `else`. In both cases, the expression has been
evaluated once, with the same effects.
-/
theorem goesOnWith_calculated
    {name : String}
    (valid : Expression.isIdentifier name = true)
    (notLiteral : Expression.literal? name = none)
    (value : Value) :
    let again := Value.ofBinding value.render
    (¬value.IsMisread → again.isTruthy = value.isTruthy) ∧
      (value.IsMisread → value.isTruthy = true ∧ again.isTruthy = false) ∧
      (∀ (m : Type → Type) [Monad m] [LawfulMonad m] (resolve : String → m (Option String)),
        resolve name = pure (some value.render) →
          (Expression.evaluate resolve name).run = pure (.ok again)) ∧
      ∀ (interpreter : Interpreter) (expression : String) (children : List Node)
          (calculation byName byExpression : Node) (scope : Scope) (progress after : Progress),
        interpreter.vocabulary = .standard →
        calculation.IsCalculation name expression →
        byName.IsCondition name children →
        byExpression.IsCondition expression children →
        (∀ node ∈ [calculation, byName, byExpression], progress.macros.find? node.name = none) →
        progress.charged + 1 < interpreter.settings.maxExpansions →
        progress.depth < interpreter.settings.maxDepth →
        interpreter.evaluate scope expression progress = .ok value after →
        ∃ between between',
          interpreter.GoesOnWith [byExpression] scope progress
              (StandardMacro.branch children value.isTruthy) scope between ∧
            interpreter.GoesOnWith [calculation, byName] scope progress
              (StandardMacro.branch children again.isTruthy) (scope.bind name value.render)
              between' ∧
            after.SameEffects between ∧ after.SameEffects between' := by
  intro again
  have sameTruth := Expression.isTruthy_ofBinding_render_iff value
  refine ⟨sameTruth.2, fun misread => ?_, fun m _ _ resolve bound => ?_, ?_⟩
  · have counts : value.isTruthy = true := by
      cases value with
      | text raw => exact misread.1
      | null | boolean _ | number _ => exact misread.elim
    refine ⟨counts, ?_⟩
    rw [← Bool.not_eq_true]
    intro countsAgain
    exact sameTruth.1 (countsAgain.trans counts.symm) misread
  · rw [Expression.evaluate_of_isIdentifier valid notLiteral, bound, map_pure]
    rfl
  · intro interpreter expression children calculation byName byExpression scope progress after
      standard isCalculation isByName isByExpression unshadowed left shallow evaluated
    rw [List.forall_mem_cons, List.forall_mem_cons, List.forall_mem_singleton] at unshadowed
    obtain ⟨journal, direct, effects⟩ := evaluate_elsewhere evaluated
      (interpreter.sameEffects_entered progress byExpression)
    obtain ⟨journal', calculated, effects'⟩ := evaluate_elsewhere evaluated
      (interpreter.sameEffects_entered progress calculation)
    refine ⟨_, _, goesOnWith_of_isCondition standard isByExpression unshadowed.2.2
        (Nat.lt_of_succ_lt left) shallow direct,
      goesOnWith_of_isCalculation standard valid notLiteral isCalculation isByName unshadowed.1
        unshadowed.2.1 left shallow calculated, effects, ?_⟩
    exact ⟨effects'.macros, effects'.styles, effects'.calls⟩

/-- A calculation of an expression under the name `k`. -/
def calculationOf (expression : String) : Node where
  name := "calculate"
  isMacro := true
  attributes := [⟨"k", expression⟩]

/-- A condition on an expression, with a label if it holds. -/
def labelIf (expression : String) : Node where
  name := "if"
  isMacro := true
  attributes := [⟨"test", expression⟩]
  children := [{ name := "label" }]

theorem isIdentifier_letter
    (letter : String)
    (listed : letter ∈ ["a", "k"]) :
    Expression.isIdentifier letter = true ∧ Expression.literal? letter = none := by
  have each :
      ∀ letter ∈ ["a", "k"],
        Expression.isIdentifier letter = true ∧ (Expression.literal? letter).isNone = true := by
    decide +kernel
  obtain ⟨valid, notLiteral⟩ := each letter listed
  exact ⟨valid, Option.isNone_iff_eq_none.1 notLiteral⟩

/-- What is bound to one half is bound again, and the label is there either way. -/
theorem goesOnWith_calculated_half :
    let interpreter : Interpreter := { vocabulary := .standard }
    let scope := Scope.empty.bind "a" "0.5"
    let value := Value.ofBinding "0.5"
    ¬value.IsMisread ∧
      ∃ between between',
        interpreter.GoesOnWith [labelIf "a"] scope {} [{ name := "label" }] scope between ∧
          interpreter.GoesOnWith [calculationOf "a", labelIf "k"] scope {} [{ name := "label" }]
            (scope.bind "k" value.render) between' := by
  intro interpreter scope value
  have valid := isIdentifier_letter "a" (by simp)
  have validAgain := isIdentifier_letter "k" (by simp)
  have counts : value.isTruthy = true := by decide +kernel
  have countsAgain : (Value.ofBinding value.render).isTruthy = true := by decide +kernel
  obtain ⟨-, onlyMisread, -, branches⟩ :=
    goesOnWith_calculated validAgain.1 validAgain.2 value
  refine ⟨fun misread => absurd ((onlyMisread misread).2.symm.trans countsAgain) nofun, ?_⟩
  obtain ⟨between, between', direct, calculated, -, -⟩ :=
    branches interpreter "a" [{ name := "label" }] (calculationOf "a") (labelIf "k") (labelIf "a")
      scope {} {} rfl (.intro (by decide +kernel)) (.intro (by decide +kernel))
      (.intro (by decide +kernel)) (fun _ _ => rfl) (by decide) (by decide)
      (congrFun (evaluate_bound valid.1 valid.2 .empty "0.5") _)
  rw [counts] at direct
  rw [countsAgain] at calculated
  exact ⟨between, between', direct, calculated⟩

/-- The text of a zero counts as true, and bound to a name it does not: the label is there if the
condition is on the text, and it is left out if the condition is on the name. -/
theorem truth_of_zeroText :
    let interpreter : Interpreter := { vocabulary := .standard }
    let value := Value.text "0"
    let count (nodes : List Node) : Option Nat :=
      Outcome.seen? (fun value _ => value.1.length) (interpreter.expandNodes nodes .empty {})
    Expression.isIdentifier "k" = true ∧
      Expression.literal? "k" = none ∧
        interpreter.evaluate .empty "'0'" {} = .ok value {} ∧
          value.isTruthy = true ∧
            (∃ again,
              interpreter.evaluate (Scope.empty.bind "k" value.render) "k" {} = .ok again {} ∧
                again.isTruthy = false) ∧
              count [labelIf "'0'"] = some 1 ∧
                count [calculationOf "'0'", labelIf "k"] = some 0 := by
  intro interpreter value count
  have valid := isIdentifier_letter "k" (by simp)
  have tokens : Expression.readTokens "'0'".toList = .ok [.text "0"] :=
    Expression.readTokens_of_readWord (by decide +kernel) rfl
  refine ⟨valid.1, valid.2, ?_, by decide +kernel,
    ⟨_, congrFun (evaluate_bound valid.1 valid.2 .empty "0") _, by decide +kernel⟩,
    by decide +kernel, by decide +kernel⟩
  unfold evaluate evaluateWith Expression.evaluate
  rw [tokens]
  rfl

end Interpreter

end WidgetMarkup
