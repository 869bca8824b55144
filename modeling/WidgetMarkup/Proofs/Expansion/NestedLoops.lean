import WidgetMarkup.Proofs.Expansion.Limits
import WidgetMarkup.Proofs.Vocabulary.Combinations
import WidgetMarkup.Proofs.Vocabulary.StandardDeclarations

namespace WidgetMarkup

open Markup

/-!
# Nested loops

A loop expands its children once for each scope that it is given, after paying for it, and gives
what comes of it in that order. The scopes of a nested loop are those of its index vectors.
-/

namespace Interpreter

variable {interpreter : Interpreter} {expand : Expander} {nodes : List Node} {scope : Scope}

/-- One iteration of a loop: it is paid for, and nodes are expanded in a scope of its own. -/
def iterate
    (interpreter : Interpreter)
    (expand : Expander)
    (nodes : List Node)
    (inner : Scope) :
    Expansion (List Node) := do
  interpreter.charge
  let (expanded, _) ← expand nodes inner
  return expanded

/--
Whether iterations in scopes of their own are paid for and succeed one after another, what comes of
each of them, and the states before and behind them.
-/
inductive Iterates
    (interpreter : Interpreter)
    (expand : Expander)
    (nodes : List Node) :
    List Scope → Progress → List (List Node) → Progress → Prop where
  | done {progress} :
      Iterates interpreter expand nodes [] progress [] progress
  | next {inner inners progress expanded left between outputs after}
      (paid : progress.charged < interpreter.settings.maxExpansions)
      (body :
        expand nodes inner { progress with charged := progress.charged + 1 } =
          .ok (expanded, left) between)
      (rest : Iterates interpreter expand nodes inners between outputs after) :
      Iterates interpreter expand nodes (inner :: inners) progress (expanded :: outputs) after

/-- There is an output of each iteration. -/
theorem Iterates.length_eq
    {inners : List Scope}
    {progress after : Progress}
    {outputs : List (List Node)}
    (iterates : interpreter.Iterates expand nodes inners progress outputs after) :
    outputs.length = inners.length := by
  induction iterates with
  | done =>
      rfl
  | next _ _ _ inductionHypothesis =>
      rw [List.length_cons, List.length_cons, inductionHypothesis]

/-- An iteration succeeds if there is work left and its body succeeds. -/
theorem iterate_eq_ok_iff
    {inner : Scope}
    {progress after : Progress}
    {expanded : List Node} :
    interpreter.iterate expand nodes inner progress = .ok expanded after ↔
      progress.charged < interpreter.settings.maxExpansions ∧
        ∃ left, expand nodes inner { progress with charged := progress.charged + 1 } =
          .ok (expanded, left) after := by
  constructor
  · intro ran
    obtain ⟨_, paid, charged, ran⟩ := bind_eq_ok ran
    obtain ⟨⟨_, left⟩, _, body, ran⟩ := bind_eq_ok ran
    cases ran
    obtain ⟨left', rfl⟩ := charge_eq_ok charged
    exact ⟨left', left, body⟩
  · rintro ⟨paid, left, body⟩
    rw [iterate, Expansion.bind_apply, charge, Expansion.charge_apply, if_neg (by omega)]
    simp only [Expansion.bind_apply, body]
    rfl

/-- Iterations succeed one after another if all of them do. -/
theorem mapM_iterate_eq_ok_iff
    {inners : List Scope}
    {progress after : Progress}
    {outputs : List (List Node)} :
    inners.mapM (interpreter.iterate expand nodes) progress = .ok outputs after ↔
      interpreter.Iterates expand nodes inners progress outputs after := by
  constructor
  · intro ran
    induction inners generalizing progress outputs with
    | nil =>
        cases ran
        exact .done
    | cons inner inners inductionHypothesis =>
        rw [List.mapM_cons] at ran
        obtain ⟨expanded, between, first, ran⟩ := bind_eq_ok ran
        obtain ⟨others, _, rest, ran⟩ := bind_eq_ok ran
        cases ran
        obtain ⟨paid, left, body⟩ := iterate_eq_ok_iff.1 first
        exact .next paid body (inductionHypothesis rest)
  · intro iterates
    induction iterates with
    | done =>
        rfl
    | next paid body _ inductionHypothesis =>
        rw [List.mapM_cons, Expansion.bind_apply, iterate_eq_ok_iff.2 ⟨paid, _, body⟩]
        simp only [Expansion.bind_apply, inductionHypothesis]
        rfl

/-- A repetition that has begun goes on with the iterations that are left. -/
theorem runScript_repeatFrom
    (bindings : Nat → List (String × String))
    (index : Nat)
    (expanded : List (List Node))
    (remaining : Nat) :
    interpreter.runScript expand
        (Script.repeatFrom nodes scope bindings index expanded remaining) =
      (do
        let outputs ← (List.range' index remaining).mapM fun index =>
          interpreter.iterate expand nodes (scope.child.bindAll (bindings index))
        return ((expanded.reverse ++ outputs).flatten, scope)) := by
  induction remaining generalizing index expanded with
  | zero =>
      rw [Script.repeatFrom, runScript, List.range'_zero, List.mapM_nil, pure_bind,
        List.append_nil]
  | succ remaining inductionHypothesis =>
      simp only [Script.repeatFrom, runScript, inductionHypothesis, List.range'_succ,
        List.mapM_cons, iterate, bind_assoc, pure_bind, List.reverse_cons, List.append_assoc,
        List.singleton_append]

/-- A loop gives what comes of its iterations, one after another. -/
theorem runScript_repeatTimes
    (count : Nat)
    (bindings : Nat → List (String × String)) :
    interpreter.runScript expand (Script.repeatTimes nodes scope count bindings) =
      (do
        let outputs ← (((List.range count).map bindings).map scope.child.bindAll).mapM
          (interpreter.iterate expand nodes)
        return (outputs.flatten, scope)) := by
  rw [Script.repeatTimes, runScript_repeatFrom, List.mapM_map, List.mapM_map, List.range_eq_range']
  rfl

open StandardMacro

/-- A nested loop iterates over the scopes of its index vectors. -/
theorem runScript_forEachNested
    {call : MacroCall}
    (someList : call.attributes ≠ []) :
    let lists := listsOf interpreter.sources call
    interpreter.runScript expand (forEachNested.script interpreter.sources call scope) =
      (do
        let outputs ←
          ((indexVectors (sizesOf lists)).map fun vector =>
            scope.child.bindAll (vectorBindings lists vector)).mapM
              (interpreter.iterate expand call.children)
        return (outputs.flatten, scope)) := by
  have isRepetition :
      forEachNested.script interpreter.sources call scope =
        .repeatTimes call.children scope (combinations (listsOf interpreter.sources call))
          (combinationBindings (listsOf interpreter.sources call)) := by
    cases attributes : call.attributes with
    | nil =>
        exact absurd attributes someList
    | cons entry rest =>
        simp only [forEachNested, listsOf, attributes, List.map_cons]
  intro lists
  rw [isRepetition, runScript_repeatTimes, map_combinationBindings, List.map_map]
  rfl

/--
A nested loop with at least one list, whatever it expands and in whatever state, iterates over the
index vectors of its lists: as many as the product of the sizes, each vector with an index below
each size once, in lexicographic order with the first index turning slowest. The iteration of a
vector is paid for and expands the children in a fresh scope inside, which sees the item and the
index of each list unless a later list binds the same name. It succeeds exactly if there is work
left for each iteration and no body fails, and gives what comes of the bodies in that order and the
scope that it began in. If there is an empty list, it gives nothing and nothing happens.
-/
theorem forEachNested_iterates
    (interpreter : Interpreter)
    (expand : Expander)
    (call : MacroCall)
    (scope : Scope)
    (someList : call.attributes ≠ []) :
    let lists := listsOf interpreter.sources call
    let vectors := indexVectors (sizesOf lists)
    let inner := fun vector => scope.child.bindAll (vectorBindings lists vector)
    let run := interpreter.runScript expand (forEachNested.script interpreter.sources call scope)
    (∀ name, Declaration.lists ["forEachNested", "nested", "eachNested"] name = true →
      Vocabulary.standard.macroRule? name = some forEachNested) ∧
    vectors.length = (sizesOf lists).prod ∧
    (∀ vector, vector ∈ vectors ↔ List.Forall₂ (· < ·) vector (sizesOf lists)) ∧
    vectors.Pairwise (List.Lex (· < ·)) ∧
    vectors.Nodup ∧
    (∀ vector ∈ vectors, SeesVector lists vector scope (inner vector)) ∧
    run =
      (do
        let outputs ← vectors.mapM fun vector =>
          interpreter.iterate expand call.children (inner vector)
        return (outputs.flatten, scope)) ∧
    (∀ progress expanded left after,
      run progress = .ok (expanded, left) after ↔
        left = scope ∧ ∃ outputs, expanded = outputs.flatten ∧
          interpreter.Iterates expand call.children (vectors.map inner) progress outputs after) ∧
    (0 ∈ sizesOf lists → ∀ progress, run progress = .ok ([], scope) progress) := by
  intro lists vectors inner run
  have iterations :
      run =
        (do
          let outputs ← (vectors.map inner).mapM (interpreter.iterate expand call.children)
          return (outputs.flatten, scope)) :=
    runScript_forEachNested someList
  refine ⟨fun name listed => ?named, length_indexVectors _, fun vector => mem_indexVectors,
    pairwise_indexVectors _, nodup_indexVectors _,
    fun vector member => seesVector_bindAll scope member, ?iterations,
    fun progress expanded left after => ⟨fun ran => ?succeeded, ?succeeds⟩,
    fun empty progress => ?nothing⟩
  case named =>
    exact Vocabulary.macroRule?_standard_of_mem
      (by simp [StandardMacro.all] : (_, forEachNested) ∈ StandardMacro.all) listed
  case iterations =>
    rw [iterations, List.mapM_map]
    rfl
  case succeeded =>
    rw [iterations] at ran
    obtain ⟨outputs, _, iterated, ran⟩ := bind_eq_ok ran
    cases ran
    exact ⟨rfl, outputs, rfl, mapM_iterate_eq_ok_iff.1 iterated⟩
  case succeeds =>
    rintro ⟨rfl, outputs, rfl, iterates⟩
    rw [iterations, Expansion.bind_apply, mapM_iterate_eq_ok_iff.2 iterates]
    rfl
  case nothing =>
    have noVector : vectors = [] := indexVectors_eq_nil empty
    rw [iterations, noVector]
    rfl

/-- Two lists of two items are gone through in four iterations. -/
theorem forEachNested_iterates_pairs :
    let interpreter : Interpreter := { vocabulary := .standard }
    let label : Node := { name := "label", attributes := [⟨"text", "{a}{b}{b:index}"⟩] }
    let call : MacroCall :=
      { name := "nested", attributes := [⟨"a", "1;2"⟩, ⟨"b", "x;y"⟩], children := [label],
        text := "", path := .root }
    let lists := listsOf interpreter.sources call
    let inner := fun vector => Scope.empty.child.bindAll (vectorBindings lists vector)
    let progress := interpreter.beginning []
    call.attributes ≠ [] ∧
      indexVectors (sizesOf lists) = [[0, 0], [0, 1], [1, 0], [1, 1]] ∧
      SeesVector lists [1, 0] .empty (inner [1, 0]) ∧
      ∃ outputs after,
        interpreter.runScript interpreter.expandNodes
            (forEachNested.script interpreter.sources call .empty) progress =
          .ok (outputs.flatten, .empty) after ∧
        interpreter.Iterates interpreter.expandNodes [label]
          ([[0, 0], [0, 1], [1, 0], [1, 1]].map inner) progress outputs after ∧
        outputs.flatten.map (fun node => node.attribute? "text") =
          [some "1x0", some "1y1", some "2x0", some "2y1"] := by
  intro interpreter label call lists inner progress
  have someList : call.attributes ≠ [] := List.cons_ne_nil _ _
  have vectors : indexVectors (sizesOf lists) = [[0, 0], [0, 1], [1, 0], [1, 1]] := by
    decide +kernel
  obtain ⟨_, _, _, _, _, sees, _, succeeds, _⟩ :=
    forEachNested_iterates interpreter interpreter.expandNodes call .empty someList
  have shown :
      Expansion.Outcome.seen? (fun value _ => value.1.map fun node => node.attribute? "text")
          (interpreter.runScript interpreter.expandNodes
            (forEachNested.script interpreter.sources call .empty) progress) =
        some [some "1x0", some "1y1", some "2x0", some "2y1"] := by
    decide +kernel
  obtain ⟨⟨expanded, left⟩, after, ran, texts⟩ := Expansion.Outcome.exists_ok_of_seen shown
  obtain ⟨rfl, outputs, rfl, iterates⟩ := (succeeds progress expanded left after).1 ran
  rw [vectors] at sees iterates
  exact ⟨someList, vectors, sees _ (by decide), outputs, after, ran, iterates, texts⟩

end Interpreter

end WidgetMarkup
