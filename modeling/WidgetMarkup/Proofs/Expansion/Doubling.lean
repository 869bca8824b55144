import WidgetMarkup.Proofs.Expansion.Growth
import WidgetMarkup.Proofs.Expansion.WrittenMacros

namespace WidgetMarkup

open Markup
open Expansion (Moment)

/-!
# A macro that doubles its content

A macro whose body is a call of itself, with the content of its own call in it twice, is called only
once for each level of depth, and what is put together for the call doubles with each of them. Hence
an expansion that is stopped for its depth has put together more nodes than any multiple of the
expansions that it may charge for, if both limits are high enough.
-/

/-- A macro without parameters whose body calls it with the content twice. -/
def doubling : UserMacro where
  marker := "content"
  parameters := []
  body := [.call "grow" [.call "content" [] ⟨1, 29⟩, .call "content" [] ⟨1, 40⟩] ⟨1, 22⟩]

/-- The definition of a macro that doubles its content, and a call of it with a label. -/
def growingSource : String :=
  "<:macro alias=\"grow\"><:grow><:content/><:content/></:grow></:macro>" ++
    "<:grow><label/></:grow>"

/-- The label that is doubled. -/
def grownLabel : Node where
  name := "label"
  position := ⟨1, 75⟩

/-- The nodes of the definition and the call. -/
def growing : List Node :=
  [.definition "grow" doubling.body ⟨1, 1⟩, .call "grow" [grownLabel] ⟨1, 68⟩]

theorem replaceMarkers_doubling
    (content : List Node) :
    Node.replaceMarkers doubling.marker content doubling.body =
      [.call "grow" (content ++ content) ⟨1, 22⟩] := by
  have isMarker (position : Position) :
      (Node.call "content" [] position).isMarkerNamed "content" = true := by
    simp [Node.call, Node.isMarkerNamed]
  have noMarker (nodes : List Node) (position : Position) :
      (Node.call "grow" nodes position).isMarkerNamed "content" = false := by
    have other : Text.sameName "grow" "content" = false := by decide +kernel
    simp [Node.call, Node.isMarkerNamed, other]
  simp only [doubling, Node.replaceMarkers, noMarker, Bool.false_eq_true, if_false]
  simp [Node.call, Node.replaceInside, Node.replaceMarkers] at isMarker ⊢
  simp [isMarker]

namespace Interpreter

variable {interpreter : Interpreter}

/-- A call of the macro that doubles content leads to another one, with the content twice. -/
theorem reaches_doubled_call
    (content : List Node)
    (position : Position)
    (scope : Scope)
    {progress : Progress}
    (found : progress.macros.find? "grow" = some doubling.toRule)
    (shallow : progress.depth < interpreter.settings.maxDepth)
    (left : progress.charged < interpreter.settings.maxExpansions) :
    ∃ inner between,
      interpreter.Reaches ⟨.node (.call "grow" content position) scope, progress⟩
          ⟨.node (.call "grow" (content ++ content) ⟨1, 22⟩) inner, between⟩ ∧
        between.macros = progress.macros ∧ between.depth = progress.depth + 1 ∧
        between.charged = progress.charged + 1 := by
  have isKnown : interpreter.findMacro? progress "grow" = some doubling.toRule := by
    rw [findMacro?, found]
  have letIn :=
    @Proceeds.call interpreter (.call "grow" content position) scope progress _ _ _ rfl isKnown
      shallow rfl
  have isBody (call : MacroCall) (same : call.children = content) :
      doubling.toRule.script interpreter.sources call scope =
        .expand [.call "grow" (content ++ content) ⟨1, 22⟩]
          (scope.child.bindAll (call.attributes.map fun entry => (entry.name, entry.value)))
          fun nodes _ => .finish nodes scope := by
    subst same
    exact congrArg (fun body => Script.expand body _ _) (replaceMarkers_doubling call.children)
  rw [isBody _ rfl] at letIn
  exact ⟨_, _, .tail (.tail (.single letIn) .pass) (.visit (charge_of_left left)), rfl, rfl, rfl⟩

/-- After a number of calls, a call of the macro that doubles content has it doubled as often. -/
theorem reaches_grown_call
    (rounds : Nat)
    (content : List Node)
    (position : Position)
    (scope : Scope)
    {progress : Progress}
    (found : progress.macros.find? "grow" = some doubling.toRule)
    (shallow : progress.depth + rounds ≤ interpreter.settings.maxDepth)
    (left : progress.charged + rounds ≤ interpreter.settings.maxExpansions) :
    ∃ grown place inner between,
      interpreter.Reaches ⟨.node (.call "grow" content position) scope, progress⟩
          ⟨.node (.call "grow" grown place) inner, between⟩ ∧
        Node.sizeAll grown = 2 ^ rounds * Node.sizeAll content ∧
        between.macros.find? "grow" = some doubling.toRule ∧
        between.depth = progress.depth + rounds := by
  induction rounds generalizing content position scope progress with
  | zero =>
      exact ⟨content, position, scope, progress, .refl, (Nat.one_mul _).symm, found, rfl⟩
  | succ rounds inductionHypothesis =>
      obtain ⟨inner, between, first, sameMacros, deeper, paid⟩ :=
        @reaches_doubled_call interpreter content position scope progress found (by omega)
          (by omega)
      obtain ⟨grown, place, inner', between', others, size, found', depth⟩ :=
        inductionHypothesis (content ++ content) ⟨1, 22⟩ inner (sameMacros ▸ found) (by omega)
          (by omega)
      refine ⟨grown, place, inner', between', first.trans others, ?_, found', by omega⟩
      rw [size, Node.sizeAll_append, ← Nat.two_mul, ← Nat.mul_assoc, ← Nat.pow_succ]

/-- In a document that calls a macro that doubles its content, the content of a label has been
doubled as often as calls have been let in. -/
theorem reaches_call_of_growing
    (standard : interpreter.vocabulary = .standard)
    (single : interpreter.sources.items "grow" = ["grow"])
    (imports : List String)
    {rounds : Nat}
    (shallow : rounds ≤ interpreter.settings.maxDepth)
    (nonzero : 0 < interpreter.settings.maxDepth)
    (left : rounds + 2 ≤ interpreter.settings.maxExpansions) :
    ∃ grown place inner between,
      interpreter.Reaches ⟨.forest growing .empty, interpreter.beginning imports⟩
          ⟨.node (.call "grow" grown place) inner, between⟩ ∧
        Node.sizeAll grown = 2 ^ rounds ∧
        between.macros.find? "grow" = some doubling.toRule ∧
        between.depth = rounds := by
  obtain ⟨defining, called, defined, outermost, paid⟩ :=
    @reaches_call_of_definition interpreter "grow" standard single doubling.body ⟨1, 1⟩
      (.call "grow" [grownLabel] ⟨1, 68⟩) .empty (interpreter.beginning imports) rfl nonzero
      (Nat.lt_of_succ_le ((Nat.le_add_left 2 rounds).trans left))
  have noDepth : defining.depth = 0 := outermost
  have paidTwice : defining.charged = 2 := paid
  obtain ⟨grown, place, inner, between, further, size, found, depth⟩ :=
    @reaches_grown_call interpreter rounds [grownLabel] ⟨1, 68⟩ .empty defining defined (by omega)
      (by omega)
  have one : Node.sizeAll [grownLabel] = 1 := rfl
  rw [one, Nat.mul_one] at size
  exact ⟨grown, place, inner, between, called.trans further, size, found, by omega⟩

/--
What it takes to stop an expansion that doubles content. If work may be charged for two nodes more
than macros may be nested, the run fails because they are nested too deeply; by then, as many nodes
have been put together for a call as two to the power of that depth.
-/
theorem parse_growingSource
    (standard : interpreter.vocabulary = .standard)
    (single : interpreter.sources.items "grow" = ["grow"])
    (read : forestOfSource interpreter.settings.marker growingSource = .ok growing)
    (nonzero : 0 < interpreter.settings.maxDepth)
    (left : interpreter.settings.maxDepth + 2 ≤ interpreter.settings.maxExpansions) :
    (∃ moment content,
      interpreter.Reaches ⟨.forest growing .empty, interpreter.beginning []⟩ moment ∧
        interpreter.Substitutes moment "content" content doubling.body ∧
        Node.sizeAll (Node.replaceMarkers "content" content doubling.body) =
          2 ^ interpreter.settings.maxDepth + 1) ∧
    ∃ problem,
      (interpreter.parse growingSource).result = .error problem ∧
        problem.problem = .tooDeep interpreter.settings.maxDepth := by
  constructor
  · obtain ⟨grown, place, inner, between, reaches, size, found, depth⟩ :=
      reaches_call_of_growing standard single [] (Nat.sub_le interpreter.settings.maxDepth 1)
        nonzero (by omega)
    have shallow : between.depth < interpreter.settings.maxDepth := by omega
    have substitutes :=
      @Substitutes.call interpreter (.call "grow" grown place) inner between _ _ doubling rfl found
        shallow rfl
    refine ⟨_, grown, reaches, substitutes, ?_⟩
    have doubled :
        2 ^ (interpreter.settings.maxDepth - 1) * 2 = 2 ^ interpreter.settings.maxDepth := by
      rw [← Nat.pow_succ, Nat.succ_eq_add_one, Nat.sub_add_cancel nonzero]
    calc
      Node.sizeAll (Node.replaceMarkers doubling.marker grown doubling.body) =
          1 + Node.sizeAll (grown ++ grown) := by
        rw [replaceMarkers_doubling]
        rfl
      _ = 2 ^ interpreter.settings.maxDepth + 1 := by
        rw [Node.sizeAll_append]
        omega
  · obtain ⟨grown, place, inner, between, reaches, _, found, depth⟩ :=
      reaches_call_of_growing standard single [] (Nat.le_refl _) nonzero left
    have known : interpreter.findMacro? between "grow" = some doubling.toRule := by
      rw [findMacro?, found]
    have refused :=
      @Expands.refused interpreter 0 (.call "grow" grown place) inner between _ rfl known depth.ge
    obtain ⟨after, failed⟩ := reaches.failed refused.perform_eq
    exact ⟨_, (Opens.document read).answer_eq_error failed, rfl⟩

/-- With a depth of six and eight units of work, more is put together from the six nodes of the
document than six nodes for each unit and once more, and it is the depth that stops it. -/
theorem exceeds_growingSource :
    let interpreter : Interpreter :=
      { vocabulary := .standard, settings := { maxDepth := 6, maxExpansions := 8 } }
    ∃ nodes moment content body,
      interpreter.Opens (.document growingSource)
          ⟨.forest nodes .empty, interpreter.beginning []⟩ ∧
        (∀ template read, ¬interpreter.Loads template read) ∧
        interpreter.Reaches ⟨.forest nodes .empty, interpreter.beginning []⟩ moment ∧
        interpreter.Substitutes moment "content" content body ∧
        Node.sizeAll nodes * (interpreter.settings.maxExpansions + 1) <
          Node.sizeAll (Node.replaceMarkers "content" content body) ∧
        ∃ problem,
          (interpreter.parse growingSource).result = .error problem ∧
            problem.problem = .tooDeep 6 := by
  intro interpreter
  have isGrowing : (forestOfSource ':' growingSource).toOption = some growing := by
    decide +kernel
  have read : forestOfSource interpreter.settings.marker growingSource = .ok growing := by
    change forestOfSource ':' growingSource = _
    cases same : forestOfSource ':' growingSource <;> rw [same] at isGrowing <;> cases isGrowing
    rfl
  obtain ⟨⟨moment, content, reaches, substitutes, size⟩, stopped⟩ :=
    @parse_growingSource interpreter rfl (by decide +kernel) read (by decide) (by decide)
  have unloaded (template : String) (nodes : List Node) : ¬interpreter.Loads template nodes := by
    rintro ⟨_, ⟨⟩, _⟩
  refine ⟨growing, moment, content, doubling.body, .document read, unloaded, reaches, substitutes,
    ?_, stopped⟩
  rw [size]
  decide +kernel

end Interpreter

end WidgetMarkup
